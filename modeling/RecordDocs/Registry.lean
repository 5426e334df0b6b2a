import RecordDocs.Record

/-!
# Registries

A table maps names to records in a fixed order; a registry is a table in which every record stands
under its own type name. A registry is a value: it is built once, record by record, and the first
entry that does not fit decides the error.
-/

namespace RecordDocs

/-- Records under distinct names, in order; a name need not be the record's own. -/
structure RecordTable where
  entries : List (String × RecordDefinition)
  keys_nodup : (entries.map Prod.fst).Nodup

namespace RecordTable

def keys (table : RecordTable) : List String :=
  table.entries.map Prod.fst

def get? (table : RecordTable) (name : String) : Option RecordDefinition :=
  table.entries.lookup name

def contains (table : RecordTable) (name : String) : Bool :=
  table.keys.contains name

def empty : RecordTable :=
  ⟨[], List.nodup_nil⟩

/-- Sets a name; one that is present keeps its place and gets the new record. -/
def insert (table : RecordTable) (name : String) (record : RecordDefinition) : RecordTable :=
  ⟨put name record table.entries, nodup_keys_put table.keys_nodup⟩

/-- The table of a list of entries, of which a later one replaces an earlier one of its name. -/
def ofEntries (entries : List (String × RecordDefinition)) : RecordTable :=
  entries.foldl (fun table entry => table.insert entry.1 entry.2) empty

end RecordTable

structure Registry where
  records : List RecordDefinition
  names_nodup : (records.map (·.typeName)).Nodup
  deriving DecidableEq

inductive RegistryError where
  | notRecord (kind : String)
  | duplicate (name : String)
  | keyMismatch (key name : String)
  deriving DecidableEq, Repr

def RegistryError.message : RegistryError → String
  | .notRecord kind => "Registry entries must be RecordDefinition instances, got " ++ kind
  | .duplicate name => "Duplicate record type: " ++ Text.quoted name
  | .keyMismatch key name =>
      "Registry key " ++ Text.quoted key ++ " does not match record type " ++ Text.quoted name

inductive Entry where
  | record (record : RecordDefinition)
  | foreign (value : Value)

namespace Registry

def empty : Registry :=
  ⟨[], List.nodup_nil⟩

def typeNames (registry : Registry) : List String :=
  registry.records.map (·.typeName)

def size (registry : Registry) : Nat :=
  registry.records.length

def table (registry : Registry) : RecordTable :=
  ⟨registry.records.map fun record => (record.typeName, record), by
    simpa [Function.comp_def] using registry.names_nodup⟩

def get? (registry : Registry) (name : String) : Option RecordDefinition :=
  registry.records.find? fun record => record.typeName == name

def add (registry : Registry) (record : RecordDefinition) : Except RegistryError Registry :=
  if h : record.typeName ∈ registry.typeNames then .error (.duplicate record.typeName)
  else .ok ⟨registry.records ++ [record], by
    rw [List.map_append, List.nodup_append]
    refine ⟨registry.names_nodup, by simp, ?_⟩
    intro name hname other hother heq
    simp only [List.map_cons, List.map_nil, List.mem_singleton] at hother
    exact h (hother ▸ heq ▸ hname)⟩

def addEntry (registry : Registry) : Entry → Except RegistryError Registry
  | .record record => registry.add record
  | .foreign value => .error (.notRecord value.kind)

/-- Adds entries one by one; the first that does not fit decides the error. -/
def addAll (registry : Registry) (entries : List Entry) : Except RegistryError Registry :=
  entries.foldlM addEntry registry

def ofEntries (entries : List Entry) : Except RegistryError Registry :=
  empty.addAll entries

def ofRecords (records : List RecordDefinition) : Except RegistryError Registry :=
  ofEntries (records.map .record)

def merged (registry : Registry) (others : List Entry) : Except RegistryError Registry :=
  ofEntries (registry.records.map .record ++ others)

def firstMismatch (table : RecordTable) : Option (String × RecordDefinition) :=
  table.entries.find? fun entry => entry.1 != entry.2.typeName

/-- A table as a registry, which asks for every record to stand under its own name. -/
def ofTable (table : RecordTable) : Except RegistryError Registry :=
  match firstMismatch table with
  | some (key, record) => .error (.keyMismatch key record.typeName)
  | none => ofRecords (table.entries.map Prod.snd)

/-- Two registries agree when they hold equal records under the same names, in whatever order. -/
def agrees (first second : Registry) : Bool :=
  first.size == second.size && first.records.all second.records.contains

def wording (registry : Registry) : String :=
  "Registry([" ++ ", ".intercalate (registry.typeNames.map Text.quoted) ++ "])"

end Registry

/-! ### Looking up a name given as a value -/

/-- The record under a name; a value that is no text is no name, and one that cannot be a key is
refused. -/
def RecordTable.find (table : RecordTable) : Value → Except Misuse (Option RecordDefinition)
  | .str name => .ok (table.get? name)
  | value => value.checkHashable.map fun _ => none

end RecordDocs
