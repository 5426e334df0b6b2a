import Mathlib.Data.List.Forall2
import RecordDocs.Proofs.ReferenceChain

/-!
# Pruned documentation

The more names are being documented already, the less is inlined, and nothing else changes. What is
left is a pruning: nodes that stand for each other say the same, and the children of the one are
prunings of some of the children of the other, in their order. Several records may be inlined below
one node, and each of them is kept or left out as a whole before it is pruned further inside.

Two expansions of one record, along a path and along a path with more names, open the same names as
long as both open any, so the paths stay one inside the other on the way down.
-/

namespace RecordDocs

namespace DocNode

variable {Label : Type}

/-- The roots say the same, and the children of the first are prunings of some of the children of
the second, in their order. -/
inductive IsPruning : DocNode Label → DocNode Label → Prop
  | node {name signature : Label} {docLines : List String} {pruned full : List (DocNode Label)}
      (hchildren : List.SublistForall₂ IsPruning pruned full) :
      IsPruning (.node name signature docLines pruned) (.node name signature docLines full)

mutual

/-- A walk through a pruning comes to some of what a walk through the whole comes to, in the same
order and with the same names on the way. -/
theorem walk_sublist_of_isPruning (above : List String) (full : DocNode String) :
    ∀ pruned : DocNode String, pruned.IsPruning full →
      ((pruned.walk above).map RecordTable.walkEntry).Sublist
        ((full.walk above).map RecordTable.walkEntry) :=
  match full with
  | .node name signature docLines children => by
      rintro pruned ⟨hchildren⟩
      rw [walk, walk, List.map_cons, List.map_cons]
      exact (walkAll_sublist_of_isPruning (above ++ [name]) children _ hchildren).cons_cons _

theorem walkAll_sublist_of_isPruning (above : List String) (full : List (DocNode String)) :
    ∀ pruned : List (DocNode String), List.SublistForall₂ IsPruning pruned full →
      ((walkAll above pruned).map RecordTable.walkEntry).Sublist
        ((walkAll above full).map RecordTable.walkEntry) :=
  match full with
  | [] => by
      intro pruned h
      cases h with
      | nil => exact List.Sublist.refl _
  | doc :: rest => by
      intro pruned h
      cases h with
      | nil => exact List.nil_sublist _
      | cons hdoc hrest =>
          rw [walkAll, walkAll, List.map_append, List.map_append]
          exact (walk_sublist_of_isPruning above doc _ hdoc).append
            (walkAll_sublist_of_isPruning above rest _ hrest)
      | cons_right hrest =>
          rw [walkAll, List.map_append]
          exact (walkAll_sublist_of_isPruning above rest _ hrest).trans
            (List.sublist_append_right _ _)

end

end DocNode

section Lists

variable {α β Part : Type} {R : α → β → Prop}

theorem sublistForall₂_append {first second : List α} {others more : List β}
    (hfirst : List.SublistForall₂ R first others) (hsecond : List.SublistForall₂ R second more) :
    List.SublistForall₂ R (first ++ second) (others ++ more) := by
  induction hfirst with
  | @nil skipped =>
      obtain ⟨kept, hkept, hsublist⟩ := List.sublistForall₂_iff.mp hsecond
      exact List.sublistForall₂_iff.mpr
        ⟨kept, hkept, hsublist.trans (List.sublist_append_right skipped more)⟩
  | cons hhead _ ih => exact .cons hhead ih
  | cons_right _ ih => exact .cons_right ih

theorem sublistForall₂_flatMap {pruned : Part → List α} {full : Part → List β} {parts : List Part}
    (h : ∀ part ∈ parts, List.SublistForall₂ R (pruned part) (full part)) :
    List.SublistForall₂ R (parts.flatMap pruned) (parts.flatMap full) := by
  induction parts with
  | nil => exact .nil
  | cons part rest ih =>
      rw [List.forall_mem_cons] at h
      exact sublistForall₂_append h.1 (ih h.2)

theorem sublistForall₂_of_forall₂ {first : List α} {second : List β}
    (h : List.Forall₂ R first second) : List.SublistForall₂ R first second :=
  List.sublistForall₂_iff.mpr ⟨second, h, List.Sublist.refl second⟩

end Lists

namespace RecordTable

open DocNode

variable {table : RecordTable} {path longer : List String} {field : FieldDefinition}
  {target : String}

/-- What a name contributes along a path with more names is nothing, or it is what the name
contributes along the shorter path, pruned further below. -/
theorem docs_expandTarget_isPruning (hsub : path ⊆ longer)
    (htarget : target ∈ table.references field.signature)
    (hbelow : ∀ record, target ∉ path → table.get? target = some record →
      List.Forall₂ IsPruning (table.expandFields (target :: longer) record.fields).docs
        (table.expandFields (target :: path) record.fields).docs) :
    List.SublistForall₂ IsPruning (table.expandTarget longer field target).docs
      (table.expandTarget path field target).docs := by
  rcases expandTarget_cases longer htarget with ⟨_, hnote⟩ | ⟨hnew, record, hget, hexpand⟩
  · rw [hnote]
    exact .nil
  · have hnewer : target ∉ path := fun hmem => hnew (hsub hmem)
    rw [hexpand, expandTarget_of_get? hnewer hget]
    exact sublistForall₂_of_forall₂ (hbelow record hnewer hget)

theorem docs_expandFields_isPruning (hsub : path ⊆ longer) (fields : List FieldDefinition) :
    List.Forall₂ IsPruning (table.expandFields longer fields).docs
      (table.expandFields path fields).docs := by
  induction path using table.path_induction generalizing longer fields with
  | step path ih =>
      rw [docs_expandFields, docs_expandFields, List.forall₂_map_left_iff,
        List.forall₂_map_right_iff, List.forall₂_same]
      refine fun field _ => .node ?_
      rw [docs_expandBelow, docs_expandBelow]
      refine sublistForall₂_flatMap fun target htarget => ?_
      refine docs_expandTarget_isPruning hsub htarget fun record hnew hget => ?_
      exact ih target record hnew hget (List.cons_subset_cons target hsub) record.fields

/-- **More names that are being documented only prune.** What is built for a known root while some
names are being documented, and what is built for it while these and others are, has the same nodes
at the top, one by one, and below each of them the second is a pruning of the first. So a walk
through the second comes to no node, text or order that a walk through the first does not come
to. -/
theorem build_isPruning_of_subset (table : RecordTable) (root : String)
    (hroot : root ∈ table.keys) (visiting more : List String) (hsub : visiting ⊆ more) :
    ∃ full pruned, table.build root visiting = .ok full ∧ table.build root more = .ok pruned ∧
      List.Forall₂ IsPruning pruned.docs full.docs ∧
      ((walkAll [] pruned.docs).map walkEntry).Sublist ((walkAll [] full.docs).map walkEntry) := by
  obtain ⟨record, hget⟩ := exists_get?_of_mem_keys hroot
  have hpruning : List.Forall₂ IsPruning (table.expandFields (root :: more) record.fields).docs
      (table.expandFields (root :: visiting) record.fields).docs :=
    docs_expandFields_isPruning (List.cons_subset_cons root hsub) record.fields
  refine ⟨_, _, build_eq_ok visiting hget, build_eq_ok more hget, hpruning, ?_⟩
  exact walkAll_sublist_of_isPruning [] _ _ (sublistForall₂_of_forall₂ hpruning)

/-- Where the author is being documented already, nothing is inlined below the credits of a book;
otherwise the author's books are. -/
theorem library_credits_pruned :
    "Book" ∈ library.keys ∧ ["Card"] ⊆ ["Author", "Card"] ∧
      ∃ full pruned, library.build "Book" ["Card"] = .ok full ∧
        library.build "Book" ["Author", "Card"] = .ok pruned ∧
        List.Forall₂ IsPruning pruned.docs full.docs ∧
        (walkAll [] full.docs).map Prod.fst = [["title"], ["credits"], ["credits", "books"]] ∧
        (walkAll [] pruned.docs).map Prod.fst = [["title"], ["credits"]] := by
  have hsub : ["Card"] ⊆ ["Author", "Card"] := by decide
  obtain ⟨full, pruned, hfull, hpruned, hpruning, -⟩ :=
    build_isPruning_of_subset library "Book" (by decide) ["Card"] ["Author", "Card"] hsub
  have hbook : library.get? "Book" = some book := rfl
  have hauthor : library.get? "Author" = some author := rfl
  have htitle : library.references "String" = [] := by decide
  have hcredits : library.references "Pair<Author, Book>" = ["Author", "Book"] := by decide
  have hbooks : library.references "List<Book>" = ["Book"] := by decide
  refine ⟨by decide, hsub, full, pruned, hfull, hpruned, hpruning, ?_, ?_⟩
  · rw [build_eq_ok _ hbook] at hfull
    obtain rfl := Except.ok.inj hfull
    simp [docs_expandFields, docs_expandBelow, expandTarget, Expansion.note, walkAll, walk, book,
      author, hauthor, htitle, hcredits, hbooks]
  · rw [build_eq_ok _ hbook] at hpruned
    obtain rfl := Except.ok.inj hpruned
    simp [docs_expandFields, docs_expandBelow, expandTarget, Expansion.note, walkAll, walk, book,
      htitle, hcredits]

end RecordTable

end RecordDocs
