import RecordDocs.Number.Integer
import RecordDocs.Record

/-!
# Schema documents

A schema document is a dictionary whose `records` member maps type names to records; a record has
`fields`, each with a `name`, a `type` and possibly a `doc`, and may have a `doc` itself. Reading a
document gives the records in order or the first fault met in document order.
-/

namespace RecordDocs.Schema

open Number Text

inductive Owner where
  | record (name : String)
  | field (name : String)
  deriving DecidableEq, Repr

inductive Fault where
  | rootNotMapping
  | recordsNotMapping
  | recordName
  | recordNotMapping (record : String)
  | fieldsNotList (record : String)
  | fieldNotMapping (record : String) (position : Nat)
  | fieldName (record : String) (position : Nat)
  | fieldTwice (record field : String)
  | fieldType (record field : String)
  | docLine (owner : Owner)
  | docKind (owner : Owner)
  deriving DecidableEq, Repr

def Owner.wording : Owner → String
  | .record name => "record " ++ quoted name
  | .field name => "field " ++ quoted name

def Fault.message (source : String) : Fault → String
  | .rootNotMapping => source ++ " must contain a mapping at the root"
  | .recordsNotMapping => source ++ ": 'records' must be a mapping of type name to record"
  | .recordName => source ++ ": record names must be non-empty strings"
  | .recordNotMapping record => source ++ ": record " ++ quoted record ++ " must be a mapping"
  | .fieldsNotList record => source ++ ": 'fields' of record " ++ quoted record ++ " must be a list"
  | .fieldNotMapping record position =>
      source ++ ": field #" ++ toString position ++ " of record " ++ quoted record
        ++ " must be a mapping"
  | .fieldName record position =>
      source ++ ": field #" ++ toString position ++ " of record " ++ quoted record
        ++ " needs a non-empty 'name'"
  | .fieldTwice record field =>
      source ++ ": record " ++ quoted record ++ " declares field " ++ quoted field ++ " twice"
  | .fieldType record field =>
      source ++ ": field " ++ quoted field ++ " of record " ++ quoted record ++ " needs a 'type'"
  | .docLine owner => source ++ ": doc lines of " ++ owner.wording ++ " must be strings"
  | .docKind owner =>
      source ++ ": 'doc' of " ++ owner.wording ++ " must be a string or a list of strings"

/-- Why a document gives no records: it is at fault, or a signature is an integer with more digits
than are written. -/
inductive ReadError where
  | fault (cause : Fault)
  | number (cause : IntegerFault)
  deriving DecidableEq, Repr

/-- The member of a mapping, none if it is null. -/
def member? (name : String) (members : List (Key × Value)) : Option Value :=
  match lookup? name members with
  | some .null => none
  | found => found

def dropFinalNewlines (chars : List Char) : List Char :=
  (chars.reverse.dropWhile (· == '\n')).reverse

def allTexts? : List Value → Option (List String)
  | [] => some []
  | .str text :: rest => (allTexts? rest).map (text :: ·)
  | _ :: _ => none

/-- The lines of a doc: a text is cut into lines, line feeds at its end aside; a list of texts is
taken as it is. -/
def readDoc (owner : Owner) : Option Value → Except Fault (List String)
  | none => .ok []
  | some (.str text) => .ok ((splitLines (dropFinalNewlines text.toList)).map String.ofList)
  | some (.list items) =>
      match allTexts? items with
      | some lines => .ok lines
      | none => .error (.docLine owner)
  | some _ => .error (.docKind owner)

/-- The text of a type: a text as it is, a number as it is written. -/
def readType (record field : String) : Option Value → Except ReadError String
  | some (.str text) => .ok text
  | some (.int number) =>
      if isWritable number then .ok (toString number) else .error (.number .unwritable)
  | some (.float number) => .ok number.text
  | _ => .error (.fault (.fieldType record field))

/-- A field whose name is known and new to its record. -/
def readFieldBody (record name : String) (hname : name ≠ "") (members : List (Key × Value)) :
    Except ReadError FieldDefinition :=
  match readType record name (lookup? "type" members) with
  | .error cause => .error cause
  | .ok signature =>
      match readDoc (.field name) (member? "doc" members) with
      | .error fault => .error (.fault fault)
      | .ok docLines => .ok ⟨name, signature, docLines, hname⟩

/-- One entry of a field list; `seen` are the names of the fields before it. -/
def readField (record : String) (position : Nat) (seen : List String) :
    Value → Except ReadError FieldDefinition
  | .dict members =>
      match lookup? "name" members with
      | some (.str name) =>
          if hname : name = "" then .error (.fault (.fieldName record position))
          else if name ∈ seen then .error (.fault (.fieldTwice record name))
          else readFieldBody record name hname members
      | _ => .error (.fault (.fieldName record position))
  | _ => .error (.fault (.fieldNotMapping record position))

def readFields (record : String) (position : Nat) (seen : List String) :
    List Value → Except ReadError (List FieldDefinition)
  | [] => .ok []
  | entry :: rest =>
      match readField record position seen entry with
      | .error cause => .error cause
      | .ok field =>
          (readFields record (position + 1) (field.name :: seen) rest).map (field :: ·)

def readFieldList (record : String) : Option Value → Except ReadError (List FieldDefinition)
  | none => .ok []
  | some (.list entries) => readFields record 1 [] entries
  | some _ => .error (.fault (.fieldsNotList record))

/-- The body of a record; a null body has no members. -/
def readBody (name : String) (hname : allBlank name = false) :
    Value → Except ReadError RecordDefinition
  | .null => .ok ⟨name, [], [], hname⟩
  | .dict members =>
      match readFieldList name (member? "fields" members) with
      | .error cause => .error cause
      | .ok fields =>
          match readDoc (.record name) (member? "doc" members) with
          | .error fault => .error (.fault fault)
          | .ok docLines => .ok ⟨name, fields, docLines, hname⟩
  | _ => .error (.fault (.recordNotMapping name))

def readRecord : Key × Value → Except ReadError RecordDefinition
  | (.text name, body) =>
      if hname : allBlank name = false then readBody name hname body
      else .error (.fault .recordName)
  | (.other _, _) => .error (.fault .recordName)

def readRecords : List (Key × Value) → Except ReadError (List RecordDefinition)
  | [] => .ok []
  | entry :: rest =>
      match readRecord entry with
      | .error cause => .error cause
      | .ok record => (readRecords rest).map (record :: ·)

/-- The records of a document; a null document, or one without records, has none. -/
def readDocument : Value → Except ReadError (List RecordDefinition)
  | .null => .ok []
  | .dict members =>
      match member? "records" members with
      | none => .ok []
      | some (.dict records) => readRecords records
      | some _ => .error (.fault .recordsNotMapping)
  | _ => .error (.fault .rootNotMapping)

/-! ### Writing documents -/

def writeDoc (docLines : List String) : Value :=
  .list (docLines.map .str)

def writeField (field : FieldDefinition) : Value :=
  .dict [(.text "name", .str field.name), (.text "type", .str field.signature),
    (.text "doc", writeDoc field.docLines)]

def writeRecord (record : RecordDefinition) : Key × Value :=
  (.text record.typeName, .dict [(.text "doc", writeDoc record.docLines),
    (.text "fields", .list (record.fields.map writeField))])

def writeDocument (records : List RecordDefinition) : Value :=
  .dict [(.text "records", .dict (records.map writeRecord))]

end RecordDocs.Schema
