import RecordDocs.DocNode
import RecordDocs.Registry
import RecordDocs.Signature

/-!
# Expanding records into documentation trees

Every field of a record becomes a node, and below it come the docs of the records that the field's
signature refers to. The path holds the names of the records that are being documented, the root
among them; a record on the path is not expanded again, so the expansion ends also for records
that refer to themselves or to each other. What is left out is noted.
-/

namespace RecordDocs

inductive Note where
  /-- The signature has arguments, and none of them is a known record. -/
  | noKnownArgument (field : FieldDefinition)
  /-- The signature refers to a record on the path. -/
  | alreadyOpen (field : FieldDefinition) (target : String)
  deriving DecidableEq

def Note.message : Note → String
  | .noKnownArgument field =>
      "No known record among the arguments of " ++ field.name ++ " (" ++ field.signature ++ ")"
  | .alreadyOpen field target =>
      "Not expanding " ++ field.name ++ " (" ++ field.signature ++ "): " ++ target
        ++ " is already being documented"

structure Expansion where
  docs : List (DocNode String)
  notes : List Note

namespace Expansion

def empty : Expansion := ⟨[], []⟩

def append (first second : Expansion) : Expansion :=
  ⟨first.docs ++ second.docs, first.notes ++ second.notes⟩

instance : Append Expansion := ⟨append⟩

def note (note : Note) : Expansion := ⟨[], [note]⟩

end Expansion

namespace RecordTable

def references (table : RecordTable) (signature : String) : List String :=
  RecordDocs.references table.contains signature

def openCount (table : RecordTable) (path : List String) : Nat :=
  (table.keys.filter fun name => name ∉ path).length

theorem mem_keys_of_get? {table : RecordTable} {name : String} {record : RecordDefinition}
    (h : table.get? name = some record) : name ∈ table.keys := by
  obtain ⟨entries, _⟩ := table
  simp only [get?, keys] at h ⊢
  induction entries with
  | nil => simp at h
  | cons entry rest ih =>
    obtain ⟨key, value⟩ := entry
    by_cases heq : name = key
    · simp [heq]
    · rw [List.lookup_cons, beq_eq_false_iff_ne.mpr heq] at h
      simpa using .inr (by simpa using ih (by grind) h)

theorem openCount_cons_lt {table : RecordTable} {name : String} {path : List String}
    (hmem : name ∈ table.keys) (hnew : name ∉ path) :
    table.openCount (name :: path) < table.openCount path := by
  unfold openCount
  have hsplit : (table.keys.filter fun other => other ∉ name :: path)
      = (table.keys.filter fun other => other ∉ path).filter fun other => other ≠ name := by
    rw [List.filter_filter]
    congr 1
    funext other
    simp
  rw [hsplit]
  refine List.length_filter_lt_length_iff_exists.mpr ⟨name, ?_, by simp⟩
  simp [hmem, hnew]

/-- The note due for a field whose signature has arguments but refers to nothing. -/
def argumentNotes (field : FieldDefinition) (targets : List String) : List Note :=
  if targets.isEmpty && (Signature.parse? field.signature).isSome then [.noKnownArgument field]
  else []

mutual

def expandFields (table : RecordTable) (path : List String) : List FieldDefinition → Expansion
  | [] => .empty
  | field :: rest =>
      let targets := table.references field.signature
      let nested := table.expandTargets path field targets
      let node := DocNode.node field.name field.signature field.docLines nested.docs
      ⟨[node], argumentNotes field targets ++ nested.notes⟩ ++ table.expandFields path rest
termination_by fields => (table.openCount path, 1, fields.length)

def expandTargets (table : RecordTable) (path : List String) (field : FieldDefinition) :
    List String → Expansion
  | [] => .empty
  | target :: rest =>
      if target ∈ path then
        .note (.alreadyOpen field target) ++ table.expandTargets path field rest
      else
        match _h : table.get? target with
        | none => table.expandTargets path field rest
        | some record =>
            table.expandFields (target :: path) record.fields
              ++ table.expandTargets path field rest
termination_by targets => (table.openCount path, 0, targets.length)
decreasing_by
  all_goals first
    | exact Prod.Lex.left _ _ (openCount_cons_lt (mem_keys_of_get? _h) (by assumption))
    | exact Prod.Lex.right _ (Prod.Lex.right _ (by simp))

end

/-- The docs of a record's fields; `visiting` are names that are being documented already, to which
the record's own name is added. -/
def expandRecord (table : RecordTable) (root : String) (record : RecordDefinition)
    (visiting : List String) : Expansion :=
  table.expandFields (root :: visiting) record.fields

end RecordTable

inductive RootError where
  | unknownType (requested : Value)
  | misuse (cause : Misuse)

def RootError.message : RootError → String
  | .unknownType requested => "Unknown record type: " ++ requested.wording
  | .misuse cause => cause.message

namespace RecordTable

def build (table : RecordTable) (root : String) (visiting : List String) :
    Except RootError Expansion :=
  match table.get? root with
  | none => .error (.unknownType (.str root))
  | some record => .ok (table.expandRecord root record visiting)

/-- The node that documents a root as a whole; name and signature are the record's own name. -/
def wrap (record : RecordDefinition) (expansion : Expansion) : Expansion :=
  { expansion with
    docs := [.node record.typeName record.typeName record.docLines expansion.docs] }

def buildRoot (table : RecordTable) (root : String) : Except RootError Expansion :=
  match table.get? root with
  | none => .error (.unknownType (.str root))
  | some record => .ok (wrap record (table.expandRecord root record []))

end RecordTable

/-! ### Roots and paths given as values -/

/-- The names in a path given as a value: nothing if void, the characters of a text, the texts in a
list, the names of a dictionary's members. What cannot be a key cannot be in a path. -/
def pathNames (visiting : Value) : Except Misuse (List String) :=
  if visiting.isVoid then .ok []
  else match visiting with
    | .list items =>
        match items.forM Value.checkHashable with
        | .error cause => .error cause
        | .ok _ => .ok (items.filterMap fun
            | .str name => some name
            | _ => none)
    | .dict members => .ok (members.filterMap fun
        | (.text name, _) => some name
        | _ => none)
    | value => value.elementTexts

/-- A request for documentation: a root, and either its fields with a path, or its own node. -/
structure BuildRequest where
  root : Value
  wrapped : Bool
  visiting : Option Value

def BuildRequest.answer (request : BuildRequest) (table : RecordTable) :
    Except RootError Expansion :=
  match table.find request.root with
  | .error cause => .error (.misuse cause)
  | .ok none => .error (.unknownType request.root)
  | .ok (some record) =>
      if request.wrapped then
        .ok (RecordTable.wrap record (table.expandRecord request.root.asText record []))
      else
        match pathNames (request.visiting.getD .null) with
        | .error cause => .error (.misuse cause)
        | .ok visiting => .ok (table.expandRecord request.root.asText record visiting)

end RecordDocs
