import RecordDocs.Proofs.Attempt

/-!
# The guard against cycles

A name on the path is not documented again, which is noted. Every name on the path leads to the
record whose fields are documented, so such a note means a cycle. Conversely an expansion without
such a note goes on through every reference, with all the names it has come through on the path:
had it come along a cycle, it would have met a name of the path.

Without a reachable cycle the guard is idle: an attempt that has no path and documents every
reference in full yields the same docs and notes.
-/

namespace RecordDocs

def Expansion.Cut (expansion : Expansion) : Prop :=
  ∃ field target, Note.alreadyOpen field target ∈ expansion.notes

namespace RecordTable

open Attempt

variable {table : RecordTable} {path : List String} {name target : String}
  {record : RecordDefinition} {fields : List FieldDefinition}

theorem alreadyOpen_not_mem_argumentNotes (field other : FieldDefinition) (target : String)
    (targets : List String) : Note.alreadyOpen other target ∉ argumentNotes field targets := by
  rw [argumentNotes]
  split <;> simp

theorem cut_expandFields_iff :
    (table.expandFields path fields).Cut ↔ ∃ field ∈ fields,
      ∃ target ∈ table.references field.signature,
        target ∈ path ∨ target ∉ path ∧ ∃ record, table.get? target = some record ∧
          (table.expandFields (target :: path) record.fields).Cut := by
  simp only [Expansion.Cut, mem_notes_expandFields_iff]
  constructor
  · rintro ⟨cutField, cutTarget, field, hfield, hnote | ⟨target, htarget, hnote⟩⟩
    · exact absurd hnote (alreadyOpen_not_mem_argumentNotes _ _ _ _)
    · refine ⟨field, hfield, target, htarget, ?_⟩
      rcases expandTarget_cases path htarget with ⟨hmem, _⟩ | ⟨hnew, record, hget, hexpand⟩
      · exact Or.inl hmem
      · rw [hexpand, mem_notes_expandFields_iff] at hnote
        exact Or.inr ⟨hnew, record, hget, cutField, cutTarget, hnote⟩
  · rintro ⟨field, hfield, target, htarget, hmem | ⟨hmem, record, hget, hdeeper⟩⟩
    · refine ⟨field, target, field, hfield, Or.inr ⟨target, htarget, ?_⟩⟩
      rw [expandTarget_of_mem hmem]
      exact List.mem_cons_self
    · obtain ⟨cutField, cutTarget, hnote⟩ := hdeeper
      refine ⟨cutField, cutTarget, field, hfield, Or.inr ⟨target, htarget, ?_⟩⟩
      rw [expandTarget_of_get? hmem hget, mem_notes_expandFields_iff]
      exact hnote

/-! ### A cut means a cycle -/

theorem exists_onCycle_of_cut (hget : table.get? name = some record)
    (hpath : ∀ ancestor ∈ path, table.Reaches ancestor name)
    (hcut : (table.expandFields path record.fields).Cut) :
    ∃ other, table.Reaches name other ∧ table.OnCycle other := by
  induction path using table.path_induction generalizing name record with
  | step path ih =>
      obtain ⟨field, hfield, target, htarget, hcases⟩ := cut_expandFields_iff.mp hcut
      have hrefers : table.RefersTo name target := ⟨record, hget, field, hfield, htarget⟩
      rcases hcases with hmem | ⟨hmem, next, hnext, hdeeper⟩
      · exact ⟨name, Relation.ReflTransGen.refl, Relation.TransGen.head' hrefers (hpath _ hmem)⟩
      · have hpathNext : ∀ ancestor ∈ target :: path, table.Reaches ancestor target := by
          intro ancestor hancestor
          rcases List.mem_cons.mp hancestor with rfl | hancestor
          · exact Relation.ReflTransGen.refl
          · exact (hpath ancestor hancestor).tail hrefers
        obtain ⟨other, hreaches, hcycle⟩ := ih target next hmem hnext hnext hpathNext hdeeper
        exact ⟨other, Relation.ReflTransGen.head hrefers hreaches, hcycle⟩

/-! ### No cut means that references go on -/

def Uncut (table : RecordTable) (path : List String) (name : String) : Prop :=
  name ∈ path ∧ ∃ record, table.get? name = some record ∧
    ¬ (table.expandFields path record.fields).Cut

theorem Uncut.refersTo (h : table.Uncut path name) (hrefers : table.RefersTo name target) :
    target ∉ path ∧ table.Uncut (target :: path) target := by
  obtain ⟨_, record, hget, hcut⟩ := h
  obtain ⟨other, hother, field, hfield, htarget⟩ := hrefers
  obtain rfl : record = other := Option.some.inj (hget.symm.trans hother)
  have hnew : target ∉ path := fun hmem =>
    hcut (cut_expandFields_iff.mpr ⟨field, hfield, target, htarget, Or.inl hmem⟩)
  obtain ⟨next, hnext⟩ := exists_get?_of_mem_references htarget
  refine ⟨hnew, List.mem_cons_self, next, hnext, fun hdeeper => ?_⟩
  exact hcut (cut_expandFields_iff.mpr
    ⟨field, hfield, target, htarget, Or.inr ⟨hnew, next, hnext, hdeeper⟩⟩)

theorem Uncut.reaches (h : table.Uncut path name) (hreaches : table.Reaches name target) :
    ∃ longer, path ⊆ longer ∧ table.Uncut longer target := by
  induction hreaches with
  | refl => exact ⟨path, List.Subset.refl path, h⟩
  | tail _ hrefers ih =>
      obtain ⟨longer, hsub, hlonger⟩ := ih
      obtain ⟨_, hnext⟩ := hlonger.refersTo hrefers
      exact ⟨_, List.subset_cons_of_subset _ hsub, hnext⟩

theorem Uncut.not_onCycle (h : table.Uncut path name) : ¬ table.OnCycle name := by
  intro hcycle
  obtain ⟨last, hreaches, hrefers⟩ := Relation.TransGen.tail'_iff.mp hcycle
  obtain ⟨longer, hsub, hlonger⟩ := h.reaches hreaches
  exact (hlonger.refersTo hrefers).1 (hsub h.1)

/-! ### An expansion without a guard -/

/-- The fields of a record, every record that is referred to in full, with at most `depth` records
inside each other. -/
def unguardedFields (table : RecordTable) :
    Nat → List FieldDefinition → Attempt (List (DocNode String))
  | 0, _ => throw .tooDeep
  | depth + 1, fields => fields.mapM (table.attemptField fun target => do
      let record ← table.recordAt target
      table.unguardedFields depth record.fields)

def unguardedBuild (table : RecordTable) (depth : Nat) (root : String) :
    Attempt (List (DocNode String)) :=
  match table.get? root with
  | none => throw (.root (.unknownType (.str root)))
  | some record => table.unguardedFields depth record.fields

theorem yields_unguardedFields (hcut : ¬ (table.expandFields path fields).Cut) {depth : Nat}
    (hdepth : table.openCount path < depth) :
    (table.unguardedFields depth fields).Yields
      (table.expandFields path fields).docs (table.expandFields path fields).notes := by
  induction path using table.path_induction generalizing fields depth with
  | step path ih =>
      obtain ⟨deeper, rfl⟩ : ∃ deeper, depth = deeper + 1 := ⟨depth - 1, by omega⟩
      rw [unguardedFields]
      refine yields_mapM_attemptField fun field hfield target htarget => ?_
      have hnew : target ∉ path := fun hmem =>
        hcut (cut_expandFields_iff.mpr ⟨field, hfield, target, htarget, Or.inl hmem⟩)
      obtain ⟨record, hget⟩ := exists_get?_of_mem_references htarget
      have hdeeper : ¬ (table.expandFields (target :: path) record.fields).Cut := fun hmem =>
        hcut (cut_expandFields_iff.mpr
          ⟨field, hfield, target, htarget, Or.inr ⟨hnew, record, hget, hmem⟩⟩)
      have hless := openCount_lt_of_get? hnew hget
      rw [expandTarget_of_get? hnew hget]
      exact (yields_recordAt hget).bind (ih target record hnew hget hdeeper (by omega))

/-- **The guard acts on cycles and on nothing else.** A reference is left out of what is built for a
known root if and only if a cycle can be reached from it. If none can, documenting every reference
in full ends as well, and with the same docs and notes. -/
theorem cut_iff_reaches_onCycle (table : RecordTable) (root : String) (hroot : root ∈ table.keys) :
    ∃ expansion, table.build root [] = .ok expansion ∧
      ((∃ field target, Note.alreadyOpen field target ∈ expansion.notes) ↔
        ∃ name, table.Reaches root name ∧ table.OnCycle name) ∧
      ((¬ ∃ name, table.Reaches root name ∧ table.OnCycle name) →
        ∀ depth, table.openCount [root] < depth →
          (table.unguardedBuild depth root).Yields expansion.docs expansion.notes) := by
  obtain ⟨record, hget⟩ := exists_get?_of_mem_keys hroot
  have hiff : (table.expandFields [root] record.fields).Cut ↔
      ∃ name, table.Reaches root name ∧ table.OnCycle name := by
    constructor
    · refine exists_onCycle_of_cut hget fun ancestor hancestor => ?_
      rw [List.mem_singleton.mp hancestor]
      exact Relation.ReflTransGen.refl
    · rintro ⟨name, hreaches, hcycle⟩
      refine Classical.byContradiction fun hcut => ?_
      have hroot : table.Uncut [root] root := ⟨List.mem_singleton_self root, record, hget, hcut⟩
      obtain ⟨longer, _, hname⟩ := hroot.reaches hreaches
      exact hname.not_onCycle hcycle
  refine ⟨_, build_eq_ok [] hget, hiff, fun hacyclic depth hdepth => ?_⟩
  rw [unguardedBuild, hget]
  exact yields_unguardedFields (fun hcut => hacyclic (hiff.mp hcut)) hdepth

/-- A book names itself, so something is left out for it; a card comes to nothing else, and nothing
is left out. -/
theorem library_cut :
    "Book" ∈ library.keys ∧ "Card" ∈ library.keys ∧
      (∃ expansion, library.build "Book" [] = .ok expansion ∧
        ∃ field target, Note.alreadyOpen field target ∈ expansion.notes) ∧
      ∃ expansion, library.build "Card" [] = .ok expansion ∧
        (library.unguardedBuild 3 "Card").Yields expansion.docs expansion.notes := by
  refine ⟨by decide, by decide, ?_, ?_⟩
  · obtain ⟨expansion, hbuild, hiff, _⟩ := cut_iff_reaches_onCycle library "Book" (by decide)
    have hcycle : library.OnCycle "Book" := Relation.TransGen.single (by decide)
    exact ⟨expansion, hbuild, hiff.mpr ⟨"Book", Relation.ReflTransGen.refl, hcycle⟩⟩
  · obtain ⟨expansion, hbuild, _, hfull⟩ := cut_iff_reaches_onCycle library "Card" (by decide)
    refine ⟨expansion, hbuild, hfull ?_ 3 (by decide)⟩
    rintro ⟨name, hreaches, hcycle⟩
    have hname : name ∈ ["Card"] := hreaches.mem_of_closed (by decide) (by decide)
    rw [List.mem_singleton.mp hname] at hcycle
    obtain ⟨next, hrefers, _⟩ := Relation.TransGen.head'_iff.mp hcycle
    exact absurd hrefers (by rw [refersTo_iff]; exact List.not_mem_nil)

end RecordTable

end RecordDocs
