import RecordDocs.Annotation.Scope
import RecordDocs.Keyed
import RecordDocs.Text.WordCharacter
import RecordDocs.Value

/-!
# Annotated classes

A class declares attributes with annotations and derives from bases. Its ancestors stand in one
line that keeps the order of every base's own line. A class that is marked as a data class gathers
the attributes of its ancestors, the farthest first, and then its own; one that is not marked still
has what its nearest marked ancestor gathered. Attributes of the class itself and those that are
only there for construction are gathered too, but are no fields. A class that is not marked holds
the metadata of its attributes under their names, and no marked class can declare such a name anew
without metadata of its own.
-/

namespace RecordDocs

open Annotation

structure Attribute where
  declared : TypeForm
  doc : Option Value

structure ClassBody where
  ref : ClassRef
  attributes : List (String × Attribute)
  isMarked : Bool
  /-- The names under which there is metadata. -/
  held : List String
  gathered : Option (List (String × Attribute))

structure AnnotatedClass where
  body : ClassBody
  docText : Option String
  /-- Nearest first. -/
  ancestors : List ClassBody

inductive ClassFault where
  | repeatedBase (name : String)
  /-- No order keeps that of all the bases, from these classes on. -/
  | noCommonLine (names : List String)
  /-- An attribute that every class has, of a kind that can change, would be a default. -/
  | changeableDefault (kind member : String)
  /-- An ancestor holds metadata under the name of an attribute. -/
  | heldByAncestor (className member : String)
  /-- An attribute without a default stands behind one that has one. -/
  | requiredBehindDefault (member : String)
  /-- The text of a class without one is made from its annotations, and one cannot be written. -/
  | unwritable
  deriving DecidableEq, Repr

def ClassFault.message : ClassFault → String
  | .repeatedBase name => "duplicate base class " ++ name
  | .noCommonLine names =>
      "Cannot create a consistent method resolution\norder (MRO) for bases "
        ++ ", ".intercalate names
  | .changeableDefault kind member =>
      "mutable default <class '" ++ kind ++ "'> for field " ++ member
        ++ " is not allowed: use default_factory"
  | .heldByAncestor className member =>
      "type object '" ++ className ++ "' has no attribute '" ++ member ++ "'"
  | .requiredBehindDefault member =>
      "non-default argument " ++ Text.quoted member ++ " follows default argument"
  | .unwritable => Fault.unwritable.message

/-! ### Lines of ancestors -/

namespace ClassBody

def isBehind (body : ClassBody) (line : List ClassBody) : Bool :=
  line.tail.any fun other => other.ref = body.ref

def firstFree (lines : List (List ClassBody)) : Option ClassBody :=
  (lines.filterMap List.head?).find? fun body => !lines.any body.isBehind

def without (body : ClassBody) : List ClassBody → List ClassBody
  | [] => []
  | head :: rest => if head.ref = body.ref then rest else head :: rest

/-- The classes that stand first where no line goes on; behind every base's own line stands the
class of all objects. -/
def stuckAt (lines : List (List ClassBody)) : List String :=
  let bases := lines.dropLast.map fun line => (line.head?.map (·.ref.name)).getD "object"
  let last := (lines.getLast?.bind List.head?).toList.map (·.ref.name)
  (bases ++ last).eraseDups

/-- One line that keeps the order of all the lines, if there is one; it has at most `fuel`
classes. -/
def mergeLines : Nat → List (List ClassBody) → Except ClassFault (List ClassBody)
  | 0, lines => if lines.all List.isEmpty then .ok [] else .error (.noCommonLine (stuckAt lines))
  | fuel + 1, lines =>
      if lines.all List.isEmpty then .ok []
      else match firstFree lines with
        | none => .error (.noCommonLine (stuckAt lines))
        | some next => (mergeLines fuel (lines.map next.without)).map (next :: ·)

end ClassBody

namespace AnnotatedClass

def name (cls : AnnotatedClass) : String :=
  cls.body.ref.name

def type (cls : AnnotatedClass) : TypeForm :=
  .cls cls.body.ref

def lineage (cls : AnnotatedClass) : List ClassBody :=
  cls.body :: cls.ancestors

def repeated? : List String → Option String
  | [] => none
  | name :: rest => if rest.contains name then some name else repeated? rest

def ancestorsOf (bases : List AnnotatedClass) : Except ClassFault (List ClassBody) :=
  match repeated? (bases.map name) with
  | some name => .error (.repeatedBase name)
  | none =>
      let lines := bases.map lineage ++ [bases.map body]
      ClassBody.mergeLines lines.flatten.length lines

/-! ### Gathering attributes -/

/-- What a marked class gathers: the attributes of its ancestors, farthest first, and its own. An
attribute that is declared again keeps its place. -/
def gather (ancestors : List ClassBody) (attributes : List (String × Attribute)) :
    List (String × Attribute) :=
  putAll (ancestors.reverse.foldl (fun all ancestor => putAll all (ancestor.gathered.getD [])) [])
    attributes

def inherited (ancestors : List ClassBody) : Option (List (String × Attribute)) :=
  (ancestors.find? (·.isMarked)).bind (·.gathered)

/-! ### Roles of attributes -/

/-- The word at the start of an annotation text, with the word and the point in front of it if
there are any. -/
def leadingWord (text : String) : Option String × String :=
  let (first, rest) := (Text.trimStart text.toList).span Text.isWordCharacter
  match Text.trimStart rest with
  | '.' :: behind =>
      let second := (Text.trimStart behind).takeWhile Text.isWordCharacter
      if first.isEmpty || second.isEmpty then (none, String.ofList first)
      else (some (String.ofList first), String.ofList second)
  | _ => (none, String.ofList first)

def isClassVariable : TypeForm → Bool
  | .special .classVariable => true
  | .application (.qualifier .classVariable) _ => true
  | _ => false

def isInitOnly : TypeForm → Bool
  | .cls ref => ref.kind = .initOnly
  | .initOnly _ => true
  | _ => false

/-- What an annotation says about its attribute. An annotation that is a text is not evaluated: the
word it starts with decides, among the names that the class was declared with. -/
def marks (names : Scope) (declared : TypeForm) : Option TypeForm :=
  match declared with
  | .constant (.text text) =>
      match leadingWord text with
      | (none, word) => names.lookup word
      | (some owner, word) =>
          match names.lookup owner with
          | some (.thing (.module module)) =>
              if module = typingName then typingWord? word else none
          | _ => none
  | form => some form

def isOfClass (names : Scope) (declared : TypeForm) : Bool :=
  (marks names declared).any isClassVariable

def isField (names : Scope) (declared : TypeForm) : Bool :=
  !(marks names declared).any fun form => isClassVariable form || isInitOnly form

/-! ### Declarations -/

def presetNames : List String :=
  ["__base__", "__bases__", "__basicsize__", "__call__", "__class__", "__delattr__",
    "__dictoffset__", "__dir__", "__doc__", "__eq__", "__flags__", "__format__", "__ge__",
    "__getattribute__", "__getstate__", "__gt__", "__hash__", "__init__", "__init_subclass__",
    "__instancecheck__", "__itemsize__", "__le__", "__lt__", "__module__", "__mro__", "__name__",
    "__ne__", "__new__", "__or__", "__prepare__", "__qualname__", "__reduce__", "__reduce_ex__",
    "__repr__", "__ror__", "__setattr__", "__sizeof__", "__str__", "__subclasscheck__",
    "__subclasses__", "__subclasshook__", "__text_signature__", "__weakref__",
    "__weakrefoffset__", "mro"]

/-- The kinds of the attributes that every class has and that can change. -/
def changeableKind? : String → Option String
  | "__annotations__" => some "dict"
  | "__dict__" => some "mappingproxy"
  | _ => none

/-- Metadata of its own takes the place of a default, unless this can change. -/
def hasDefault (entry : String × Attribute) : Bool :=
  (changeableKind? entry.1).isSome || (entry.2.doc.isNone && presetNames.contains entry.1)

/-- The first attribute without a default that stands behind one with a default. -/
def requiredBehindDefault? (attributes : List (String × Attribute)) : Option String :=
  ((attributes.dropWhile (!hasDefault ·)).find? (!hasDefault ·)).map (·.1)

def ownFault? (names : Scope) (className : String) (ancestors : List ClassBody)
    (attributes : List (String × Attribute)) : Option ClassFault :=
  let changeable := attributes.findSome? fun (name, member) =>
    if isField names member.declared then
      (changeableKind? name).map fun kind => .changeableDefault kind name
    else none
  let held := attributes.find? fun (name, member) =>
    member.doc.isNone && ancestors.any (·.held.contains name)
  changeable.or (held.map fun (name, _) => .heldByAncestor className name)

/-- Of attributes of one name the last declaration counts. -/
def declare (names : Scope) (ref : ClassRef) (declarations : List (String × Attribute))
    (isMarked : Bool) (docText : Option String) (bases : List AnnotatedClass) :
    Except ClassFault AnnotatedClass := do
  let ancestors ← ancestorsOf bases
  let attributes := putAll [] declarations
  if !isMarked then
    let held := (attributes.filter (·.2.doc.isSome)).map (·.1)
    return ⟨⟨ref, attributes, false, held, inherited ancestors⟩, docText, ancestors⟩
  if let some fault := ownFault? names ref.name ancestors attributes then throw fault
  let gathered := gather ancestors attributes
  let constructed := gathered.filter fun (_, member) => !isOfClass names member.declared
  if let some name := requiredBehindDefault? constructed then throw (.requiredBehindDefault name)
  if (docText.getD "").isEmpty && !constructed.all (·.2.declared.isWritable) then throw .unwritable
  return ⟨⟨ref, attributes, true, [], some gathered⟩, docText, ancestors⟩

def fields? (names : Scope) (cls : AnnotatedClass) : Option (List (String × Attribute)) :=
  cls.body.gathered.map fun gathered =>
    gathered.filter fun (_, member) => isField names member.declared

end AnnotatedClass

end RecordDocs
