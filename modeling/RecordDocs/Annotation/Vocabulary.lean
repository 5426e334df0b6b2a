import RecordDocs.Annotation.Builtin

/-!
# The vocabulary of annotations

The words of the typing vocabulary: generics with the names of the classes they stand for and how
many arguments they take, words with a meaning of their own, classes, functions, type variables and
the modules that the vocabulary rests on.
-/

namespace RecordDocs.Annotation

def typingName : String := "typing"

/-! ### Generics and words -/

def countedGenerics : List (String × String × Nat) :=
  [("AbstractSet", "Set", 1), ("AsyncContextManager", "AbstractAsyncContextManager", 1),
    ("AsyncGenerator", "AsyncGenerator", 2), ("AsyncIterable", "AsyncIterable", 1),
    ("AsyncIterator", "AsyncIterator", 1), ("Awaitable", "Awaitable", 1),
    ("ByteString", "ByteString", 0), ("ChainMap", "ChainMap", 2), ("Collection", "Collection", 1),
    ("Container", "Container", 1), ("ContextManager", "AbstractContextManager", 1),
    ("Coroutine", "Coroutine", 3), ("Counter", "Counter", 1), ("DefaultDict", "defaultdict", 2),
    ("Deque", "deque", 1), ("Dict", "dict", 2), ("FrozenSet", "frozenset", 1),
    ("Generator", "Generator", 3), ("Hashable", "Hashable", 0), ("ItemsView", "ItemsView", 2),
    ("Iterable", "Iterable", 1), ("Iterator", "Iterator", 1), ("KeysView", "KeysView", 1),
    ("List", "list", 1), ("Mapping", "Mapping", 2), ("MappingView", "MappingView", 1),
    ("Match", "Match", 1), ("MutableMapping", "MutableMapping", 2),
    ("MutableSequence", "MutableSequence", 1), ("MutableSet", "MutableSet", 1),
    ("OrderedDict", "OrderedDict", 2), ("Pattern", "Pattern", 1), ("Reversible", "Reversible", 1),
    ("Sequence", "Sequence", 1), ("Set", "set", 1), ("Sized", "Sized", 0), ("Type", "type", 1),
    ("ValuesView", "ValuesView", 1)]

/-- The module in front of a native class in messages about its attributes. -/
def labelHome? : String → Option String
  | "defaultdict" => some "collections"
  | "deque" => some "collections"
  | "OrderedDict" => some "collections"
  | "Match" => some "re"
  | "Pattern" => some "re"
  | _ => none

def labelOf (name : String) : String :=
  match labelHome? name with
  | some home => home ++ "." ++ name
  | none => name

def genericName (name origin : String) (arity : Arity) : GenericName :=
  ⟨name, origin, labelOf origin, arity⟩

def generics : List GenericName :=
  genericName "Tuple" "tuple" .anyNumber :: genericName "Callable" "Callable" .signature ::
    countedGenerics.map fun (name, origin, count) => genericName name origin (.exactly count)

def specialForms : List SpecialForm :=
  [.any, .annotated, .generic, .protocol, .union, .optional, .literal, .classVariable, .final,
    .typeGuard, .required, .notRequired, .concatenate, .unpack, .marker "LiteralString",
    .marker "Never", .marker "NoReturn", .marker "Self", .marker "TypeAlias"]

/-! ### Classes -/

def typingClass (kind : ClassKind) (name : String) : ClassRef :=
  .ofModule typingName name kind 0

/-- Classes of the vocabulary that take no arguments, among them those that its forms are of. -/
def typingClassNames : List String :=
  ["ForwardRef", "NamedTupleMeta", "NewType", "ParamSpec", "ParamSpecArgs", "ParamSpecKwargs",
    "TypeVar", "TypeVarTuple", "_AnnotatedAlias", "_AnyMeta", "_BaseGenericAlias",
    "_BoundVarianceMixin", "_CallableGenericAlias", "_CallableType", "_ConcatenateGenericAlias",
    "_DeprecatedType", "_Final", "_GenericAlias", "_Immutable", "_LiteralGenericAlias",
    "_LiteralSpecialForm", "_NotIterable", "_PickleUsingNameMixin", "_ProtocolMeta",
    "_SpecialForm", "_SpecialGenericAlias", "_TupleType", "_TypedDictMeta", "_TypingEllipsis",
    "_UnionGenericAlias", "_UnpackGenericAlias"]

/-- Classes that ask for certain members, with how many type variables they have. -/
def protocolNames : List (String × Nat) :=
  [("SupportsAbs", 1), ("SupportsBytes", 0), ("SupportsComplex", 0), ("SupportsFloat", 0),
    ("SupportsIndex", 0), ("SupportsInt", 0), ("SupportsRound", 1)]

def fileNames : List (String × Nat) :=
  [("BinaryIO", 0), ("IO", 1), ("TextIO", 0)]

/-- A class of the vocabulary that is of another class than most, under the name it has itself. -/
def typingClassOf (metaclass name : String) : ClassRef :=
  { typingClass .plain name with metaclass }

/-- A namespace of the vocabulary that is going away; its name is the full one. -/
def namespaceClass (name : String) : ClassRef :=
  let full := typingName ++ "." ++ name
  ⟨full, full, full, "_DeprecatedType", .plain, 0⟩

def typingClass? (word : String) : Option ClassRef :=
  if typingClassNames.contains word then some (typingClass .plain word)
  else if let some count := protocolNames.lookup word then
    some { typingClass (.generic count) word with metaclass := "_ProtocolMeta" }
  else if let some count := fileNames.lookup word then
    some (typingClass (.generic count) word)
  else match word with
    | "ABCMeta" => some (.ofModule "abc" word .plain 0)
    | "GenericAlias" => some containerAliasClass
    | "MethodDescriptorType" => some (.builtin "method_descriptor" .plain)
    | "MethodWrapperType" => some (.builtin "method-wrapper" .plain)
    | "WrapperDescriptorType" => some (.builtin "wrapper_descriptor" .plain)
    | "Text" => some (.builtin "str" .plain)
    | "defaultdict" => some (nativeClass "collections" word .container)
    | "io" => some (namespaceClass word)
    | "re" => some (namespaceClass word)
    | "_NamedTuple" => some (typingClassOf "NamedTupleMeta" "NamedTuple")
    | "_TypedDict" => some (typingClassOf "_TypedDictMeta" "TypedDict")
    | "_alias" => some (typingClass .plain "_SpecialGenericAlias")
    | _ => none

/-! ### Functions, type variables and modules -/

def typingFunctionNames : List String :=
  ["NamedTuple", "TypedDict", "assert_never", "assert_type", "cast", "clear_overloads",
    "dataclass_transform", "final", "get_args", "get_origin", "get_overloads", "get_type_hints",
    "is_typeddict", "no_type_check", "no_type_check_decorator", "overload", "reveal_type",
    "runtime_checkable"]

def typingFunction? (word : String) : Option Thing :=
  if typingFunctionNames.contains word then some (.function word typingName false)
  else match word with
    | "abstractmethod" => some (.function word "abc" false)
    | "_idfunc" => some (.function word "_typing" true)
    | _ => none

def typingVariables : List (String × Char) :=
  [("AnyStr", '~'), ("CT_co", '+'), ("KT", '~'), ("T", '~'), ("T_co", '+'), ("T_contra", '-'),
    ("VT", '~'), ("VT_co", '+'), ("V_co", '+')]

def typingModules : List (String × String) :=
  [("collections", "collections"), ("contextlib", "contextlib"), ("functools", "functools"),
    ("operator", "operator"), ("stdlib_re", "re"), ("sys", "sys"), ("types", "types"),
    ("warnings", "warnings")]

/-! ### Words -/

def typingWord? (word : String) : Option TypeForm :=
  if let some generic := generics.find? (·.name == word) then some (.generic generic)
  else if let some form := specialForms.find? (·.name == word) then some (.special form)
  else if let some ref := typingClass? word then some (.cls ref)
  else if let some function := typingFunction? word then some (.thing function)
  else if let some sign := typingVariables.lookup word then
    some (.typeVariable ⟨word, sign, typingName⟩)
  else if let some name := typingModules.lookup word then some (.thing (.module name))
  else match word with
    | "TYPE_CHECKING" => some (.constant (.flag false))
    | "__name__" => some (.constant (.text typingName))
    | _ => none

def initOnlyClass : ClassRef :=
  .ofModule "dataclasses" "InitVar" .initOnly 0

def referenceClass : ClassRef :=
  typingClass .plain "ForwardRef"

end RecordDocs.Annotation
