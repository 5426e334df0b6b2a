import Mathlib.Data.List.Forall2
import RecordDocs.Proofs.Locality
import RecordDocs.Proofs.ReferenceChain

/-!
# Inlined documentation

A record is documented alike wherever it is inlined, as long as the names that are being documented
there are the same among those that references lead to from it. The paths of two such expansions
never become equal. What stays the same is their part that is within reach of the record at hand:
a reference leads to a record that reaches no more, and its name goes onto both paths.

So a record that reaches none of the names being documented is inlined as it is documented on its
own.
-/

namespace RecordDocs

namespace RecordTable

variable {table : RecordTable} {path other : List String} {name target : String}
  {record : RecordDefinition} {field : FieldDefinition}

/-- The paths have the same of the names that references lead to from a name. -/
def PathsAgree (table : RecordTable) (name : String) (path other : List String) : Prop :=
  ∀ target, Relation.TransGen table.RefersTo name target → (target ∈ path ↔ target ∈ other)

theorem PathsAgree.cons (h : table.PathsAgree name path other)
    (hrefers : table.RefersTo name target) :
    table.PathsAgree target (target :: path) (target :: other) := by
  intro next hnext
  rw [List.mem_cons, List.mem_cons, h next (Relation.TransGen.head hrefers hnext)]

/-- A record is expanded alike along paths that agree on what it reaches. -/
theorem PathsAgree.expandFields_eq (h : table.PathsAgree name path other)
    (hget : table.get? name = some record) :
    table.expandFields other record.fields = table.expandFields path record.fields := by
  -- Both paths take up the same name, so the induction on one of them serves the other too.
  induction path using table.path_induction generalizing other name record with
  | step path ih =>
      refine expandFields_congr (fun _ _ => rfl) fun field hfield target htarget => ?_
      have hrefers : table.RefersTo name target := ⟨record, hget, field, hfield, htarget⟩
      have hiff := h target (Relation.TransGen.single hrefers)
      rcases expandTarget_cases path htarget with ⟨hmem, hnote⟩ | ⟨hnew, next, hnext, hexpand⟩
      · rw [hnote, expandTarget_of_mem (hiff.mp hmem)]
      · rw [hexpand, expandTarget_of_get? (mt hiff.mpr hnew) hnext]
        exact ih target next hnew hnext (h.cons hrefers) hnext

theorem docs_expandBelow_eq_filter (table : RecordTable) (path : List String)
    (field : FieldDefinition) :
    (table.expandBelow path field).docs
      = ((table.references field.signature).filter fun target => target ∉ path).flatMap
          fun target => (table.expandTarget path field target).docs := by
  rw [docs_expandBelow]
  induction table.references field.signature with
  | nil => rfl
  | cons target rest ih =>
      by_cases hmem : target ∈ path
      · rw [List.filter_cons_of_neg (by simpa using hmem), List.flatMap_cons, ih,
          expandTarget_of_mem hmem]
        rfl
      · rw [List.filter_cons_of_pos (by simpa using hmem), List.flatMap_cons, List.flatMap_cons, ih]

/-- A name that reaches nothing on the path is inlined as it is documented on its own. -/
theorem docs_expandTarget_eq_build
    (htarget : target ∈ table.references field.signature)
    (hapart : ∀ name ∈ path, ¬ table.Reaches target name) :
    ∃ standalone, table.build target [] = .ok standalone ∧
      (table.expandTarget path field target).docs = standalone.docs := by
  have hnew : target ∉ path := fun hmem => hapart target hmem Relation.ReflTransGen.refl
  obtain ⟨record, hget⟩ := exists_get?_of_mem_references htarget
  have hagree : table.PathsAgree target [target] (target :: path) := by
    intro next hnext
    rw [List.mem_singleton, List.mem_cons]
    constructor
    · exact Or.inl
    · rintro (heq | hmem)
      · exact heq
      · exact absurd hnext.to_reflTransGen (hapart next hmem)
  refine ⟨_, build_eq_ok [] hget, ?_⟩
  rw [expandTarget_of_get? hnew hget, hagree.expandFields_eq hget]

/-- **Inlined docs depend on their surroundings only through what they reach.** What is built for a
name is the same whatever is being documented already, as long as that is the same among the other
names that references lead to from it. In a walk through what is built for a root, take the nodes
along the simple chains: if of the names that the signature at the end of a chain refers to a single
one is not being documented there, and none that is being documented can be reached from this one,
then below the node stands just what is built for this name on its own. -/
theorem build_depends_on_reached_names (table : RecordTable) :
    (∀ name ∈ table.keys, ∀ visiting other : List String,
      (∀ target, Relation.TransGen table.RefersTo name target → target ≠ name →
        (target ∈ visiting ↔ target ∈ other)) →
      table.build name visiting = table.build name other) ∧
    (∀ root ∈ table.keys, ∀ visiting : List String,
      ∃ (expansion : Expansion) (chains : List Chain),
        table.build root visiting = .ok expansion ∧
        (∀ chain : Chain, chain ∈ chains ↔ chain.IsSimple table root visiting) ∧
        chains.Pairwise (fun first second => first.address table < second.address table) ∧
        List.Forall₂ (fun entry chain =>
            entry.1 = chain.names ∧ entry.2.signature = chain.final.signature ∧
            ∀ target, (table.references chain.final.signature).filter
                (fun name => name ∉ chain.openNames (root :: visiting)) = [target] →
              (∀ name ∈ chain.openNames (root :: visiting), ¬ table.Reaches target name) →
              ∃ standalone, table.build target [] = .ok standalone ∧
                entry.2.children = standalone.docs)
          (DocNode.walkAll [] expansion.docs) chains) := by
  constructor
  · intro name hname visiting other hagree
    obtain ⟨record, hget⟩ := exists_get?_of_mem_keys hname
    have hpaths : table.PathsAgree name (name :: other) (name :: visiting) := by
      intro target htarget
      rw [List.mem_cons, List.mem_cons]
      by_cases heq : target = name
      · simp [heq]
      · rw [hagree target htarget heq]
    rw [build_eq_ok visiting hget, build_eq_ok other hget, hpaths.expandFields_eq hget]
  · intro root hroot visiting
    obtain ⟨record, hget⟩ := exists_get?_of_mem_keys hroot
    refine ⟨_, table.chains (root :: visiting) record.fields, build_eq_ok visiting hget, ?_,
      pairwise_address_chains table (root :: visiting) record.fields, ?_⟩
    · intro chain
      rw [mem_chains_iff, Chain.IsSimple, hget]
      simp
    · rw [walkAll_expandFields_eq_map, List.forall₂_map_left_iff, List.forall₂_same]
      refine fun chain _ => ⟨rfl, rfl, fun target hone hapart => ?_⟩
      have htarget : target ∈ table.references chain.final.signature :=
        (List.mem_filter.mp (hone ▸ List.mem_singleton_self target)).1
      obtain ⟨standalone, hbuild, hdocs⟩ := docs_expandTarget_eq_build htarget hapart
      refine ⟨standalone, hbuild, ?_⟩
      change (table.expandBelow _ chain.final).docs = standalone.docs
      rw [docs_expandBelow_eq_filter, hone, List.flatMap_singleton, hdocs]

/-- What a reader has borrowed is documented as books are, because no reference leads from a book to
a reader. -/
theorem branch_inlines_book :
    "Book" ∈ branch.keys ∧ "Reader" ∈ branch.keys ∧
      branch.build "Book" ["Reader"] = branch.build "Book" ["Card", "Book"] ∧
      ∃ expansion doc standalone, branch.build "Reader" [] = .ok expansion ∧
        (["loans"], doc) ∈ DocNode.walkAll [] expansion.docs ∧
        branch.build "Book" [] = .ok standalone ∧ doc.children = standalone.docs := by
  have hreached : ∀ target, branch.Reaches "Book" target → target ∈ ["Book", "Author"] :=
    fun target hreaches => hreaches.mem_of_closed (by decide) (by decide)
  obtain ⟨hagree, hinlined⟩ := build_depends_on_reached_names branch
  refine ⟨by decide, by decide, hagree "Book" (by decide) _ _ ?_, ?_⟩
  · intro target hreaches hne
    have hauthor : target = "Author" := by
      simpa [hne] using hreached target hreaches.to_reflTransGen
    rw [hauthor]
    decide
  · obtain ⟨expansion, chains, hbuild, hsimple, _, hwalk⟩ := hinlined "Reader" (by decide) []
    have hchain : .last 0 ⟨"loans", "List<Book>", [], by decide⟩ ∈ chains :=
      (hsimple _).mpr ⟨⟨_, rfl, rfl⟩, by decide, by decide⟩
    obtain ⟨index, hindex, hlast⟩ := List.getElem_of_mem hchain
    have hentry := hwalk.get (hwalk.length_eq ▸ hindex) hindex
    rw [List.get_eq_getElem, List.get_eq_getElem, hlast] at hentry
    obtain ⟨(hnames : _ = ["loans"]), _, hchildren⟩ := hentry
    obtain ⟨standalone, hbook, hdocs⟩ := hchildren "Book" (by decide) fun name hname hreaches => by
      rw [List.mem_singleton.mp hname] at hreaches
      exact absurd (hreached _ hreaches) (by decide)
    refine ⟨expansion, _, standalone, hbuild, ?_, hbook, hdocs⟩
    rw [← hnames]
    exact List.getElem_mem _

end RecordTable

end RecordDocs
