import RecordDocs.Annotation.Token

/-!
# Type forms

What an annotation denotes: classes, special words, generics with or without arguments, unions,
literals, annotated forms, references to names that are looked up later, and values that are no
types at all but may stand where types do. A form's kind is what messages call things of its sort.
-/

namespace RecordDocs.Annotation

/-! ### Classes and words -/

inductive ClassKind where
  /-- It is refused. -/
  | plain
  /-- The class with any arguments. -/
  | container
  /-- The class with as many arguments as it has variables. -/
  | generic (count : Nat)
  /-- A mark on a field that is only there for construction. -/
  | initOnly
  deriving DecidableEq, Repr

structure ClassRef where
  name : String
  /-- The name behind that of its module. -/
  fullName : String
  /-- The name in messages about its attributes. -/
  label : String
  /-- The name of the class that it is itself of. -/
  metaclass : String
  kind : ClassKind
  /-- Tells classes of one name apart. -/
  serial : Nat
  deriving DecidableEq, Repr

/-- The module of what is always there. -/
def builtinHome : String := "builtins"

/-- A name behind that of its module, unless it is always there. -/
def qualifiedName (home name : String) : String :=
  if home == builtinHome then name else home ++ "." ++ name

def ClassRef.builtin (name : String) (kind : ClassKind) : ClassRef :=
  ⟨name, name, name, "type", kind, 0⟩

def ClassRef.ofModule (home name : String) (kind : ClassKind) (serial : Nat) : ClassRef :=
  ⟨name, qualifiedName home name, name, "type", kind, serial⟩

/-- The class of the null constant, which stands for the constant where types are asked for. -/
def nullClass : ClassRef := .builtin "NoneType" .plain

/-- A class of another module, whose messages name it in full. -/
def nativeClass (home name : String) (kind : ClassKind) : ClassRef :=
  { ClassRef.ofModule home name kind 0 with label := home ++ "." ++ name }

def containerAliasClass : ClassRef := nativeClass "types" "GenericAlias" .plain

def infixedUnionClass : ClassRef := nativeClass "types" "UnionType" .plain

inductive SpecialForm where
  | any
  | annotated
  | generic
  | protocol
  | union
  | optional
  | literal
  | classVariable
  | final
  | typeGuard
  | required
  | notRequired
  | concatenate
  | unpack
  /-- A type without a class, such as the one that has no values. -/
  | marker (name : String)
  deriving DecidableEq, Repr

def SpecialForm.name : SpecialForm → String
  | .any => "Any"
  | .annotated => "Annotated"
  | .generic => "Generic"
  | .protocol => "Protocol"
  | .union => "Union"
  | .optional => "Optional"
  | .literal => "Literal"
  | .classVariable => "ClassVar"
  | .final => "Final"
  | .typeGuard => "TypeGuard"
  | .required => "Required"
  | .notRequired => "NotRequired"
  | .concatenate => "Concatenate"
  | .unpack => "Unpack"
  | .marker name => name

def SpecialForm.isClass : SpecialForm → Bool
  | .any => true
  | .annotated => true
  | .generic => true
  | .protocol => true
  | _ => false

inductive Arity where
  | exactly (count : Nat)
  | anyNumber
  /-- Parameters and a result. -/
  | signature
  deriving DecidableEq, Repr

/-- A named generic, the name of the class it stands for, and that class's name in messages about
attributes. -/
structure GenericName where
  name : String
  origin : String
  label : String
  arity : Arity
  deriving DecidableEq, Repr

inductive Origin where
  | named (generic : GenericName)
  | qualifier (form : SpecialForm)
  | cls (ref : ClassRef)
  deriving DecidableEq, Repr

def Origin.name : Origin → String
  | .named generic => generic.origin
  | .qualifier form => form.name
  | .cls ref => ref.name

def Origin.isSignature : Origin → Bool
  | .named generic => generic.arity = .signature
  | _ => false

/-- Two generics of different names may stand for one class. -/
def Origin.same : Origin → Origin → Bool
  | .named first, .named second => first.origin == second.origin
  | first, second => first = second

/-- A type variable; the sign in front of its name says how it varies. -/
structure TypeVariable where
  name : String
  sign : Char
  home : String
  deriving DecidableEq, Repr

/-- Things that are neither types nor constants. -/
inductive Thing where
  /-- A function of a module; one that is native is worded as such. -/
  | function (name home : String) (isNative : Bool)
  | module (name : String)
  /-- Something without a name; its kind has a home. -/
  | unnamed (kind home wording : String)
  deriving DecidableEq, Repr

inductive TypeForm where
  | constant (value : Constant)
  | cls (ref : ClassRef)
  | thing (thing : Thing)
  | special (form : SpecialForm)
  | generic (generic : GenericName)
  | application (origin : Origin) (arguments : List TypeForm)
  /-- A container class with its arguments. -/
  | container (ref : ClassRef) (arguments : List TypeForm)
  /-- A union; one written between its members is told apart from one written by name. -/
  | union (isInfixed : Bool) (members : List TypeForm)
  | literal (values : List TypeForm)
  | annotated (base : TypeForm) (notes : List TypeForm)
  /-- A name or expression that is looked up later; `isQualified` allows qualifiers in it. -/
  | reference (text : String) (isQualified : Bool)
  | typeVariable (ref : TypeVariable)
  | newType (name fullName : String)
  | initOnly (inner : TypeForm)
  | list (items : List TypeForm)
  | tuple (items : List TypeForm)
  deriving Inhabited

/-! ### Kinds -/

def Constant.kind : Constant → String
  | .null => "NoneType"
  | .ellipsis => "ellipsis"
  | .flag _ => "bool"
  | .integer _ => "int"
  | .decimal _ => "float"
  | .text _ => "str"
  | .octets _ => "bytes"

def SpecialForm.kind : SpecialForm → String
  | .any => "_AnyMeta"
  | .protocol => "_ProtocolMeta"
  | .annotated => "type"
  | .generic => "type"
  | .literal => "_LiteralSpecialForm"
  | _ => "_SpecialForm"

def Origin.kind : Origin → String
  | .named generic =>
      if generic.arity = .signature then "_CallableGenericAlias" else "_GenericAlias"
  | .qualifier .concatenate => "_ConcatenateGenericAlias"
  | .qualifier .unpack => "_UnpackGenericAlias"
  | _ => "_GenericAlias"

def Thing.kind : Thing → String
  | .function _ _ isNative => if isNative then "builtin_function_or_method" else "function"
  | .module _ => "module"
  | .unnamed kind _ _ => kind

namespace TypeForm

def kind : TypeForm → String
  | .constant value => value.kind
  | .cls ref => ref.metaclass
  | .thing value => value.kind
  | .special word => word.kind
  | .generic word =>
      match word.arity with
      | .exactly _ => "_SpecialGenericAlias"
      | .anyNumber => "_TupleType"
      | .signature => "_CallableType"
  | .application origin _ => origin.kind
  | .container _ _ => "types.GenericAlias"
  | .union isInfixed _ => if isInfixed then "types.UnionType" else "_UnionGenericAlias"
  | .literal _ => "_LiteralGenericAlias"
  | .annotated _ _ => "_AnnotatedAlias"
  | .reference _ _ => "ForwardRef"
  | .typeVariable _ => "TypeVar"
  | .newType _ _ => "NewType"
  | .initOnly _ => "InitVar"
  | .list _ => "list"
  | .tuple _ => "tuple"

end TypeForm

end RecordDocs.Annotation
