import RecordDocs.Text.Blank
import RecordDocs.Value

/-!
# Record definitions

A record type has a name, fields in declaration order, and doc lines. A field's name is never
empty and a record's name never blank; both facts are part of the types. A draft is a definition
as it is requested, with document values of any kind; defining it checks the name and converts the
rest: a signature becomes its text, doc lines given as one text are cut into lines.
-/

namespace RecordDocs

open Text

structure FieldDefinition where
  name : String
  signature : String
  docLines : List String
  name_ne_empty : name ≠ ""
  deriving DecidableEq

structure RecordDefinition where
  typeName : String
  fields : List FieldDefinition
  docLines : List String
  typeName_not_blank : allBlank typeName = false
  deriving DecidableEq

def RecordDefinition.fieldNames (record : RecordDefinition) : List String :=
  record.fields.map (·.name)

inductive DefinitionError where
  | fieldName
  | typeName
  | lines (cause : Misuse)
  deriving DecidableEq, Repr

def DefinitionError.message : DefinitionError → String
  | .fieldName => "Field name must be a non-empty string"
  | .typeName => "Record type name must be a non-empty string"
  | .lines cause => cause.message

structure FieldDraft where
  name : Value
  signature : Value
  docLines : Option Value

structure RecordDraft where
  typeName : Value
  fields : List FieldDraft
  docLines : Option Value

/-- Doc lines of a definition; nothing given means no lines. -/
def definitionLines : Option Value → Except DefinitionError (List String)
  | none => .ok []
  | some value => value.docLines.mapError .lines

def FieldDraft.define (draft : FieldDraft) : Except DefinitionError FieldDefinition :=
  match draft.name with
  | .str name =>
      if h : name = "" then .error .fieldName
      else (definitionLines draft.docLines).map fun lines =>
        ⟨name, draft.signature.asText, lines, h⟩
  | _ => .error .fieldName

def RecordDefinition.ofValues (typeName : Value) (fields : List FieldDefinition)
    (docLines : Option Value) : Except DefinitionError RecordDefinition :=
  match typeName with
  | .str name =>
      if h : allBlank name = false then
        (definitionLines docLines).map fun lines => ⟨name, fields, lines, h⟩
      else .error .typeName
  | _ => .error .typeName

/-- The fields are defined before the record itself is checked. -/
def RecordDraft.define (draft : RecordDraft) : Except DefinitionError RecordDefinition :=
  match draft.fields.mapM FieldDraft.define with
  | .error error => .error error
  | .ok fields => RecordDefinition.ofValues draft.typeName fields draft.docLines

/-! ### Defining again -/

def FieldDefinition.draft (field : FieldDefinition) : FieldDraft :=
  ⟨.str field.name, .str field.signature, some (.list (field.docLines.map .str))⟩

def RecordDefinition.draft (record : RecordDefinition) : RecordDraft :=
  ⟨.str record.typeName, record.fields.map FieldDefinition.draft,
    some (.list (record.docLines.map .str))⟩

/-- Doc lines given as a list of texts are taken as they are, line breaks in them included. -/
theorem definitionLines_list (docLines : List String) :
    definitionLines (some (.list (docLines.map .str))) = .ok docLines := by
  have htexts : (docLines.map Value.str).map Value.asText = docLines := by
    rw [List.map_map]
    exact List.map_id docLines
  rw [definitionLines, Value.docLines, Value.elementTexts, htexts]
  · rfl
  · intro text heq
    cases heq

/-- Defining a field again changes nothing. -/
theorem FieldDefinition.define_draft (field : FieldDefinition) :
    field.draft.define = .ok field := by
  rw [FieldDraft.define, draft]
  simp only [dif_neg field.name_ne_empty, definitionLines_list]
  rfl

theorem mapM_define_map_draft (fields : List FieldDefinition) :
    (fields.map FieldDefinition.draft).mapM FieldDraft.define = .ok fields := by
  induction fields with
  | nil => rfl
  | cons field rest ih =>
    rw [List.map_cons, List.mapM_cons, ih, field.define_draft]
    rfl

/-- Defining a record again changes nothing, whatever it holds. -/
theorem RecordDefinition.define_draft (record : RecordDefinition) :
    record.draft.define = .ok record := by
  rw [RecordDraft.define, draft, mapM_define_map_draft]
  simp only [ofValues, dif_pos record.typeName_not_blank, definitionLines_list]
  rfl

end RecordDocs
