import RecordDocs.Proofs.ReferenceGraph

/-!
# The parts of an expansion

An expansion is a sequence of parts, one for each field, and below a field one for each name that
its signature refers to. The recursion is on the path, which takes up one more name of the table at
each level: what holds of a path whenever it holds of all the longer ones holds of every path.
-/

namespace RecordDocs

namespace Expansion

def concat (parts : List Expansion) : Expansion :=
  ⟨parts.flatMap (·.docs), parts.flatMap (·.notes)⟩

@[simp]
theorem docs_concat (parts : List Expansion) : (concat parts).docs = parts.flatMap (·.docs) := rfl

@[simp]
theorem notes_concat (parts : List Expansion) :
    (concat parts).notes = parts.flatMap (·.notes) := rfl

theorem concat_nil : concat [] = empty := rfl

theorem concat_cons (part : Expansion) (parts : List Expansion) :
    concat (part :: parts) = part ++ concat parts := rfl

theorem empty_append (expansion : Expansion) : empty ++ expansion = expansion := rfl

end Expansion

namespace RecordTable

variable {table : RecordTable} {path : List String} {field : FieldDefinition} {target : String}
  {record : RecordDefinition}

/-! ### One reference, one field -/

def expandTarget (table : RecordTable) (path : List String) (field : FieldDefinition)
    (target : String) : Expansion :=
  if target ∈ path then .note (.alreadyOpen field target)
  else match table.get? target with
    | none => .empty
    | some record => table.expandFields (target :: path) record.fields

def expandBelow (table : RecordTable) (path : List String) (field : FieldDefinition) : Expansion :=
  .concat ((table.references field.signature).map (table.expandTarget path field))

def expandField (table : RecordTable) (path : List String) (field : FieldDefinition) : Expansion :=
  ⟨[.node field.name field.signature field.docLines (table.expandBelow path field).docs],
    argumentNotes field (table.references field.signature) ++ (table.expandBelow path field).notes⟩

theorem expandTarget_of_mem (h : target ∈ path) :
    table.expandTarget path field target = .note (.alreadyOpen field target) :=
  if_pos h

theorem expandTarget_of_get? (hnew : target ∉ path) (hget : table.get? target = some record) :
    table.expandTarget path field target = table.expandFields (target :: path) record.fields := by
  rw [expandTarget, if_neg hnew, hget]

theorem expandTarget_cases (path : List String)
    (htarget : target ∈ table.references field.signature) :
    (target ∈ path ∧ table.expandTarget path field target = .note (.alreadyOpen field target)) ∨
      (target ∉ path ∧ ∃ record, table.get? target = some record ∧
        table.expandTarget path field target
          = table.expandFields (target :: path) record.fields) := by
  by_cases hmem : target ∈ path
  · exact Or.inl ⟨hmem, expandTarget_of_mem hmem⟩
  · obtain ⟨record, hget⟩ := exists_get?_of_mem_references htarget
    exact Or.inr ⟨hmem, record, hget, expandTarget_of_get? hmem hget⟩

theorem expandTargets_eq_concat (table : RecordTable) (path : List String)
    (field : FieldDefinition) (targets : List String) :
    table.expandTargets path field targets
      = .concat (targets.map (table.expandTarget path field)) := by
  induction targets with
  | nil => rw [expandTargets, List.map_nil, Expansion.concat_nil]
  | cons target rest ih =>
      rw [expandTargets, ih, List.map_cons, Expansion.concat_cons]
      by_cases hmem : target ∈ path
      · rw [if_pos hmem, expandTarget_of_mem hmem]
      · rw [if_neg hmem]
        split
        · rename_i hget
          rw [expandTarget, if_neg hmem, hget, Expansion.empty_append]
        · rename_i record hget
          rw [expandTarget_of_get? hmem hget]

/-- An expansion is what its fields contribute, in order. -/
theorem expandFields_eq_concat (table : RecordTable) (path : List String)
    (fields : List FieldDefinition) :
    table.expandFields path fields = .concat (fields.map (table.expandField path)) := by
  induction fields with
  | nil => rw [expandFields, List.map_nil, Expansion.concat_nil]
  | cons field rest ih =>
      rw [expandFields, ih, List.map_cons, Expansion.concat_cons, expandTargets_eq_concat]
      rfl

theorem docs_expandFields (table : RecordTable) (path : List String)
    (fields : List FieldDefinition) :
    (table.expandFields path fields).docs = fields.map fun field =>
      .node field.name field.signature field.docLines (table.expandBelow path field).docs := by
  rw [expandFields_eq_concat, Expansion.docs_concat, List.flatMap_map]
  exact List.map_eq_flatMap.symm

theorem docs_expandBelow (table : RecordTable) (path : List String) (field : FieldDefinition) :
    (table.expandBelow path field).docs = (table.references field.signature).flatMap fun target =>
      (table.expandTarget path field target).docs := by
  rw [expandBelow, Expansion.docs_concat, List.flatMap_map]

theorem mem_notes_expandFields_iff {fields : List FieldDefinition} {note : Note} :
    note ∈ (table.expandFields path fields).notes ↔ ∃ field ∈ fields,
      note ∈ argumentNotes field (table.references field.signature) ∨
        ∃ target ∈ table.references field.signature,
          note ∈ (table.expandTarget path field target).notes := by
  rw [expandFields_eq_concat, Expansion.notes_concat, List.flatMap_map, List.mem_flatMap]
  simp only [expandField, expandBelow, Expansion.notes_concat, List.mem_append, List.flatMap_map,
    List.mem_flatMap]

/-- Two expansions of the same fields, of whatever tables and along whatever paths, are equal if
each signature refers to the same names in both and each of these contributes the same. -/
theorem expandFields_congr {other : RecordTable} {otherPath : List String}
    {fields : List FieldDefinition}
    (hreferences : ∀ field ∈ fields,
      other.references field.signature = table.references field.signature)
    (htargets : ∀ field ∈ fields, ∀ target ∈ table.references field.signature,
      other.expandTarget otherPath field target = table.expandTarget path field target) :
    other.expandFields otherPath fields = table.expandFields path fields := by
  rw [expandFields_eq_concat, expandFields_eq_concat]
  refine congrArg Expansion.concat (List.map_congr_left fun field hfield => ?_)
  have hbelow : other.expandBelow otherPath field = table.expandBelow path field := by
    rw [expandBelow, expandBelow, hreferences field hfield]
    exact congrArg Expansion.concat (List.map_congr_left (htargets field hfield))
  rw [expandField, expandField, hbelow, hreferences field hfield]

/-! ### Induction on the path -/

/-- Opening a record leaves fewer names to open. -/
theorem openCount_lt_of_get? (hnew : target ∉ path) (hget : table.get? target = some record) :
    table.openCount (target :: path) < table.openCount path :=
  openCount_cons_lt (mem_keys_of_get? hget) hnew

/-- Paths cannot grow for ever by names of the table, so a property of paths follows for a path
from the property for the paths that are longer by one such name. -/
theorem path_induction (table : RecordTable) {motive : List String → Prop}
    (step : ∀ path, (∀ target record, target ∉ path → table.get? target = some record →
      motive (target :: path)) → motive path) (path : List String) : motive path := by
  induction hcount : table.openCount path using Nat.strongRecOn generalizing path with
  | ind count ih =>
      refine step path fun target record hnew hget => ?_
      have hless := openCount_lt_of_get? hnew hget
      exact ih _ (hcount ▸ hless) (target :: path) rfl

/-! ### Building -/

theorem build_eq_error (visiting : List String) {root : String} (h : root ∉ table.keys) :
    table.build root visiting = .error (.unknownType (.str root)) := by
  rw [build, get?_eq_none_iff.mpr h]

theorem build_eq_ok (visiting : List String) {root : String} (h : table.get? root = some record) :
    table.build root visiting = .ok (table.expandFields (root :: visiting) record.fields) := by
  rw [build, h]
  rfl

end RecordTable

end RecordDocs
