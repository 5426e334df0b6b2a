import RecordDocs.AnnotatedClass
import RecordDocs.Annotation.Rendering
import RecordDocs.Registry
import RecordDocs.Text.Margin

/-!
# Reflection

Record definitions of data classes. A field's signature is that of the type its annotation stands
for. All annotations of a class and its ancestors are resolved together; if one cannot be, each
field is resolved on its own, and a text that fails stays as it is but for its brackets. Doc lines
come from the metadata of the fields and the doc text of the class.
-/

namespace RecordDocs

open Annotation

inductive Subject where
  | ofClass (cls : AnnotatedClass)
  | ofValue (value : Value)

def Subject.wording : Subject → String
  | .ofClass cls => cls.type.wording
  | .ofValue value => value.wording

inductive ReflectionError where
  | notDataClass (wording : String)
  | fault (cause : Fault)
  | docMetadata (wording : String)
  | definition (cause : DefinitionError)
  | nameless (kind : String)
  | registry (cause : RegistryError)
  deriving DecidableEq, Repr

def ReflectionError.message : ReflectionError → String
  | .notDataClass wording => wording ++ " is not a dataclass type"
  | .fault cause => cause.message
  | .docMetadata wording => "Unsupported doc metadata: " ++ wording
  | .definition cause => cause.message
  | .nameless kind => "'" ++ kind ++ "' object has no attribute '__name__'"
  | .registry cause => cause.message

abbrev Reflecting := ExceptT ReflectionError (StateM Memory)

def Reflecting.ofForming {α : Type} (make : Forming α) : Reflecting α :=
  make.adapt .fault

/-! ### Annotations of fields -/

def angled : Char → Char
  | '[' => '<'
  | ']' => '>'
  | char => char

def angledText (text : String) : String :=
  String.ofList ((Text.trim text.toList).map angled)

/-- What to do about an annotation that cannot be resolved; other faults remain. -/
def orUnresolved {α : Type} (make : Forming α) (fallback : α) : Forming α :=
  tryCatch make fun fault => if fault.isUnresolvable then return fallback else throw fault

namespace AnnotatedClass

/-- The types of all annotated attributes in the lineage; a nearer class has the last word. -/
def lineageHints (scope : Scope) (cls : AnnotatedClass) :
    Forming (List (String × TypeForm)) := do
  let attributes := cls.lineage.reverse.flatMap (·.attributes)
  let resolved ← attributes.mapM fun (name, member) => do
    return (name, ← scope.resolve member.declared)
  (putAll [] resolved).mapM fun (name, form) => do
    return (name, ← form.withoutNotes)

/-- The types of all attributes, or of none if one of them cannot be resolved. -/
def hints (scope : Scope) (cls : AnnotatedClass) : Forming (List (String × TypeForm)) :=
  orUnresolved (cls.lineageHints scope) []

end AnnotatedClass

/-- The type of an annotation resolved on its own. A text that cannot be resolved is kept, and so is
any other annotation. -/
def loneHint (scope : Scope) (declared : TypeForm) : Forming TypeForm :=
  match declared with
  | .constant (.text text) =>
      orUnresolved (scope.hint declared) (.constant (.text (angledText text)))
  | form => return form

/-! ### Doc lines -/

/-- Doc lines from metadata: a text loses its margin and is cut into lines, the elements of a
collection are lines each. -/
def metadataLines : Option Value → Except ReflectionError (List String)
  | none => .ok []
  | some .null => .ok []
  | some (.str text) => .ok (Text.lines (Text.cleanMargin text))
  | some value => value.elementTexts.mapError fun _ => .docMetadata value.wording

/-- A doc text that starts like a construction of the class was not written by hand. -/
def isGenerated (className text : String) : Bool :=
  (className ++ "(").toList.isPrefixOf text.toList

namespace AnnotatedClass

def docLines (cls : AnnotatedClass) : List String :=
  match cls.docText with
  | none => []
  | some text =>
      if isGenerated cls.name text then [] else Text.lines (Text.cleanMargin text)

/-! ### Records -/

def fieldDefinition (scope : Scope) (hints : List (String × TypeForm)) (name : String)
    (member : Attribute) : Reflecting FieldDefinition := do
  let type ← match hints.lookup name with
    | some type => pure type
    | none => .ofForming (loneHint scope member.declared)
  let signature ← type.signature?.mapError ReflectionError.fault
  let lines ← metadataLines member.doc
  (FieldDraft.define ⟨.str name, .str signature, some (.list (lines.map .str))⟩).mapError
    ReflectionError.definition

/-- The record of a class. Its own name is known in it unless `locals` hide it; `names` are those
around the class. -/
def record (names locals : Scope) (cls : AnnotatedClass) : Reflecting RecordDefinition := do
  let some fields := cls.fields? names | throw (.notDataClass cls.type.wording)
  let scope := locals ++ (cls.name, cls.type) :: names
  let hints ← .ofForming (cls.hints scope)
  let definitions ← fields.mapM fun (name, member) => fieldDefinition scope hints name member
  (RecordDefinition.ofValues (.str cls.name) definitions
    (some (.list (cls.docLines.map .str)))).mapError ReflectionError.definition

end AnnotatedClass

namespace Subject

def record (names locals : Scope) : Subject → Reflecting RecordDefinition
  | .ofClass cls => cls.record names locals
  | .ofValue value => throw (.notDataClass value.wording)

def entry : Subject → Except ReflectionError (String × TypeForm)
  | .ofClass cls => .ok (cls.name, cls.type)
  | .ofValue value => .error (.nameless value.kind)

def addAll (names locals : Scope) (registry : Registry) :
    List Subject → Reflecting Registry
  | [] => return registry
  | subject :: rest => do
      let record ← subject.record names locals
      let registry ← (registry.add record).mapError ReflectionError.registry
      addAll names locals registry rest

/-- The registry of classes, which know each other's names; of one name the last class counts. -/
def registry (names : Scope) (subjects : List Subject) : Reflecting Registry := do
  let locals ← subjects.mapM fun subject => subject.entry
  addAll names locals.reverse .empty subjects

end Subject

end RecordDocs
