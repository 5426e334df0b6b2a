import Mathlib.Logic.Relation
import RecordDocs.Expansion

/-!
# The reference graph

A name of a table refers to the names that the signatures of its record's fields refer to. Whatever
is referred to is a name of the table again, so that following references never leaves it, and a
signature refers to no name twice.
-/

namespace RecordDocs

open Text

variable {known : String → Bool} {text target : String}

/-! ### What a signature refers to -/

theorem mem_distinctFrom {name : String} {seen names : List String} :
    name ∈ distinctFrom seen names ↔ name ∈ names ∧ name ∉ seen := by
  induction names generalizing seen with
  | nil => simp [distinctFrom]
  | cons first rest ih =>
      by_cases hseen : first ∈ seen
      · rw [distinctFrom, if_pos hseen, ih, List.mem_cons]
        constructor
        · rintro ⟨hmem, hnew⟩
          exact ⟨Or.inr hmem, hnew⟩
        · rintro ⟨rfl | hmem, hnew⟩
          · exact absurd hseen hnew
          · exact ⟨hmem, hnew⟩
      · rw [distinctFrom, if_neg hseen, List.mem_cons, ih, List.mem_cons, List.mem_cons]
        by_cases heq : name = first
        · simp [heq, hseen]
        · simp [heq]

theorem nodup_distinctFrom (seen names : List String) : (distinctFrom seen names).Nodup := by
  induction names generalizing seen with
  | nil => exact List.nodup_nil
  | cons first rest ih =>
      rw [distinctFrom]
      split
      · exact ih seen
      · rw [List.nodup_cons]
        refine ⟨?_, ih (first :: seen)⟩
        intro hmem
        exact (mem_distinctFrom.mp hmem).2 List.mem_cons_self

theorem parse?_strip (text : String) : Signature.parse? (strip text) = Signature.parse? text := by
  rw [Signature.parse?, Signature.parse?, strip, String.toList_ofList, trim_trim]

def argumentsOf (text : String) : List String :=
  ((Signature.parse? text).map (·.arguments)).getD []

theorem references_eq_ite (known : String → Bool) (text : String) :
    references known text = if strip text = "" then []
      else if known (strip text) then [strip text]
      else distinctFrom []
        ((argumentsOf text).filter fun argument => argument ≠ "" && known argument) := by
  simp only [references, parse?_strip, argumentsOf]
  cases Signature.parse? text with
  | none => rfl
  | some signature => rfl

theorem known_of_mem_references (h : target ∈ references known text) : known target = true := by
  rw [references_eq_ite] at h
  split at h
  · cases h
  · split at h
    · rename_i hknown
      rwa [List.mem_singleton.mp h]
    · have hmem := (mem_distinctFrom.mp h).1
      simp only [List.mem_filter, Bool.and_eq_true] at hmem
      exact hmem.2.2

theorem nodup_references (known : String → Bool) (text : String) :
    (references known text).Nodup := by
  rw [references_eq_ite]
  split
  · exact List.nodup_nil
  · split
    · simp
    · exact nodup_distinctFrom _ _

namespace RecordTable

variable {table : RecordTable} {name : String} {path : List String}

/-! ### Names and records of a table -/

theorem exists_get?_of_mem_keys (h : name ∈ table.keys) :
    ∃ record, table.get? name = some record := by
  obtain ⟨entry, hentry, rfl⟩ := List.mem_map.mp h
  exact Option.isSome_iff_exists.mp (List.lookup_isSome_iff.mpr ⟨entry, hentry, by simp⟩)

theorem get?_eq_none_iff : table.get? name = none ↔ name ∉ table.keys := by
  constructor
  · intro hnone hmem
    obtain ⟨record, hrecord⟩ := exists_get?_of_mem_keys hmem
    rw [hnone] at hrecord
    cases hrecord
  · intro hnotMem
    cases hget : table.get? name with
    | none => rfl
    | some record => exact absurd (mem_keys_of_get? hget) hnotMem

theorem get?_eq_some_iff {record : RecordDefinition} :
    table.get? name = some record ↔ (name, record) ∈ table.entries := by
  obtain ⟨entries, hnodup⟩ := table
  change entries.lookup name = some record ↔ (name, record) ∈ entries
  induction entries with
  | nil => simp
  | cons entry rest ih =>
      obtain ⟨first, other⟩ := entry
      obtain ⟨hfirst, hrest⟩ := List.nodup_cons.mp hnodup
      rw [List.lookup_cons, List.mem_cons, Prod.mk.injEq]
      by_cases heq : name = first
      · subst heq
        have habsent : (name, record) ∉ rest := fun hmem =>
          hfirst (List.mem_map.mpr ⟨_, hmem, rfl⟩)
        simp [habsent, eq_comm]
      · rw [beq_eq_false_iff_ne.mpr heq]
        simpa [heq] using ih hrest

theorem mem_keys_of_mem_references (h : target ∈ table.references text) : target ∈ table.keys := by
  have hknown := known_of_mem_references h
  simpa [contains] using hknown

theorem exists_get?_of_mem_references (h : target ∈ table.references text) :
    ∃ record, table.get? target = some record :=
  exists_get?_of_mem_keys (mem_keys_of_mem_references h)

/-! ### Following references -/

def RefersTo (table : RecordTable) (source target : String) : Prop :=
  ∃ record, table.get? source = some record ∧
    ∃ field ∈ record.fields, target ∈ table.references field.signature

/-- The names that are met when references are followed from a name on, itself included. -/
def Reaches (table : RecordTable) : String → String → Prop :=
  Relation.ReflTransGen table.RefersTo

def OnCycle (table : RecordTable) (name : String) : Prop :=
  Relation.TransGen table.RefersTo name name

def successors (table : RecordTable) (name : String) : List String :=
  match table.get? name with
  | none => []
  | some record => record.fields.flatMap fun field => table.references field.signature

theorem refersTo_iff : table.RefersTo name target ↔ target ∈ table.successors name := by
  rw [RefersTo, successors]
  cases table.get? name with
  | none => simp
  | some record => simp [List.mem_flatMap]

instance : DecidableRel table.RefersTo :=
  fun _ _ => decidable_of_iff _ refersTo_iff.symm

theorem RefersTo.mem_keys (h : table.RefersTo name target) : target ∈ table.keys := by
  obtain ⟨_, _, _, _, hmem⟩ := h
  exact mem_keys_of_mem_references hmem

theorem Reaches.mem_keys (h : table.Reaches name target) (hname : name ∈ table.keys) :
    target ∈ table.keys := by
  induction h with
  | refl => exact hname
  | tail _ hstep _ => exact hstep.mem_keys

/-- Names that refer to each other only are not left by following references. -/
theorem Reaches.mem_of_closed {names : List String} (h : table.Reaches name target)
    (hclosed : ∀ source ∈ names, ∀ next ∈ table.successors source, next ∈ names)
    (hname : name ∈ names) : target ∈ names := by
  induction h with
  | refl => exact hname
  | tail _ hstep ih => exact hclosed _ ih _ (refersTo_iff.mp hstep)

/-! ### An example -/

def book : RecordDefinition :=
  ⟨"Book", [⟨"title", "String", [], by decide⟩,
    ⟨"credits", "Pair<Author, Book>", ["Who made it"], by decide⟩], [], by decide⟩

def author : RecordDefinition :=
  ⟨"Author", [⟨"books", "List<Book>", [], by decide⟩], [], by decide⟩

def card : RecordDefinition :=
  ⟨"Card", [⟨"number", "u64", [], by decide⟩], ["Of a reader"], by decide⟩

def library : RecordTable where
  entries := [("Book", book), ("Author", author), ("Card", card)]
  keys_nodup := by decide

end RecordTable

end RecordDocs
