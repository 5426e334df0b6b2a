import RecordDocs.Publication
import RecordDocs.Proofs.ExpansionParts
import RecordDocs.Proofs.WrittenTrees

/-!
# The text of a publication

A publication of known roots has a member for each of them, where they are first asked for, and the
member of a root is what documents it alone: a root that comes again only sets its member to the
value it has. The JSON text of the publication reads back as these members at every indentation, and
the members as the trees that were built.
-/

namespace RecordDocs.RecordTable

variable {table : RecordTable} {wrapRoot : Bool} {root : String}

/-! ### One root -/

/-- Read back, the value is what building the root gives: the nodes of its fields, or its own
node. -/
def Documents (table : RecordTable) (wrapRoot : Bool) (root : String) (value : Value) : Prop :=
  if wrapRoot then
    ∃ expansion doc, table.buildRoot root = .ok expansion ∧ expansion.docs = [doc] ∧
      DocNode.ofValue value = .ok doc
  else
    ∃ expansion items, table.build root [] = .ok expansion ∧ value = .list items ∧
      DocNode.ofValues items = .ok expansion.docs

/-- The value that documents a root; null if the root is not known. -/
def rootValue (table : RecordTable) (wrapRoot : Bool) (root : String) : Value :=
  match table.publishRoot wrapRoot root with
  | .error _ => .null
  | .ok (value, _) => value

/-- A known root can be documented, by a value that documents it and is made of texts. -/
theorem publishRoot_eq_ok (wrapRoot : Bool) (h : root ∈ table.keys) :
    ∃ notes, table.publishRoot wrapRoot root = .ok (table.rootValue wrapRoot root, notes) ∧
      table.Documents wrapRoot root (table.rootValue wrapRoot root) ∧
      Json.Textual (table.rootValue wrapRoot root) := by
  obtain ⟨record, hget⟩ := exists_get?_of_mem_keys h
  cases wrapRoot with
  | true =>
      let expansion := table.expandRecord root record []
      let doc := DocNode.node record.typeName record.typeName record.docLines expansion.docs
      have hbuild : table.buildRoot root = .ok ⟨[doc], expansion.notes⟩ := by
        rw [buildRoot, hget]
        rfl
      have hpublish : table.publishRoot true root = .ok (doc.toValue .str, expansion.notes) := by
        rw [publishRoot, if_pos rfl, hbuild]
        rfl
      rw [rootValue, hpublish]
      exact ⟨_, rfl, ⟨_, doc, hbuild, rfl, DocNode.ofValue_toValue_str doc⟩,
        DocNode.textual_toValue doc⟩
  | false =>
      let expansion := table.expandRecord root record []
      have hbuild : table.build root [] = .ok expansion := by
        rw [build, hget]
      have hpublish : table.publishRoot false root
          = .ok (.list (DocNode.toValues .str expansion.docs), expansion.notes) := by
        rw [publishRoot, if_neg Bool.false_ne_true, hbuild]
        rfl
      rw [rootValue, hpublish]
      exact ⟨_, rfl, ⟨_, _, hbuild, rfl, DocNode.ofValues_toValues_str expansion.docs⟩,
        .list (DocNode.textual_of_mem_toValues expansion.docs)⟩

theorem publishRoot_eq_error (wrapRoot : Bool) (h : root ∉ table.keys) :
    table.publishRoot wrapRoot root = .error (.unknownType (.str root)) := by
  have hget := get?_eq_none_iff.mpr h
  cases wrapRoot with
  | true =>
      rw [publishRoot, if_pos rfl, buildRoot, hget]
      rfl
  | false =>
      rw [publishRoot, if_neg Bool.false_ne_true, build, hget]
      rfl

/-! ### All roots -/

def rootMembers (table : RecordTable) (wrapRoot : Bool) (roots : List String) :
    List (Key × Value) :=
  roots.map fun root => (.text root, table.rootValue wrapRoot root)

theorem map_fst_rootMembers (table : RecordTable) (wrapRoot : Bool) (roots : List String) :
    (table.rootMembers wrapRoot roots).map Prod.fst = roots.map .text := by
  rw [rootMembers, List.map_map]
  rfl

theorem nodup_keys_rootMembers {roots : List String} (h : roots.Nodup) :
    ((table.rootMembers wrapRoot roots).map Prod.fst).Nodup := by
  rw [map_fst_rootMembers]
  refine List.pairwise_map.mpr (h.imp ?_)
  intro first second hne heq
  exact hne (Key.text.inj heq)

theorem put_rootMembers (table : RecordTable) (wrapRoot : Bool) (seen : List String)
    (root : String) :
    put (.text root) (table.rootValue wrapRoot root) (table.rootMembers wrapRoot seen.eraseDups)
      = table.rootMembers wrapRoot (seen ++ [root]).eraseDups := by
  rw [eraseDups_concat]
  by_cases hmem : root ∈ seen
  · -- The value of a root does not depend on what has been documented before it.
    rw [if_pos hmem]
    apply put_of_mem (nodup_keys_rootMembers (nodup_eraseDups seen))
    exact List.mem_map.mpr ⟨root, List.mem_eraseDups.mpr hmem, rfl⟩
  · have hkey : Key.text root ∉ (table.rootMembers wrapRoot seen.eraseDups).map Prod.fst := by
      rw [map_fst_rootMembers]
      intro hkey
      obtain ⟨again, hagain, heq⟩ := List.mem_map.mp hkey
      exact hmem (Key.text.inj heq ▸ List.mem_eraseDups.mp hagain)
    rw [if_neg hmem, put_of_not_mem hkey, rootMembers, rootMembers, List.map_append]
    rfl

theorem members_publishOnto (wrapRoot : Bool) (seen : List String) {roots : List String}
    (h : ∀ root ∈ roots, root ∈ table.keys) :
    (table.publishOnto wrapRoot (table.rootMembers wrapRoot seen.eraseDups) roots).members
      = .ok (table.rootMembers wrapRoot (seen ++ roots).eraseDups) := by
  induction roots generalizing seen with
  | nil => rw [publishOnto, List.append_nil]
  | cons root rest ih =>
      rw [List.forall_mem_cons] at h
      obtain ⟨notes, hpublish, -, -⟩ := publishRoot_eq_ok wrapRoot h.1
      have hrest := ih (seen ++ [root]) h.2
      rw [publishOnto, hpublish]
      dsimp only
      rw [put_rootMembers, hrest, List.append_assoc, List.singleton_append]

theorem members_publish (wrapRoot : Bool) {roots : List String}
    (h : ∀ root ∈ roots, root ∈ table.keys) :
    (table.publish wrapRoot roots).members
      = .ok (table.rootMembers wrapRoot roots.eraseDups) :=
  members_publishOnto wrapRoot [] h

theorem members_publishOnto_of_unknown (wrapRoot : Bool) (members : List (Key × Value))
    {roots : List String} (h : ∃ root ∈ roots, root ∉ table.keys) :
    ∃ root ∈ roots, root ∉ table.keys ∧
      (table.publishOnto wrapRoot members roots).members = .error (.unknownType (.str root)) := by
  induction roots generalizing members with
  | nil =>
      obtain ⟨root, hroot, -⟩ := h
      cases hroot
  | cons first rest ih =>
      by_cases hfirst : first ∈ table.keys
      · obtain ⟨notes, hpublish, -, -⟩ := publishRoot_eq_ok wrapRoot hfirst
        have hrest : ∃ root ∈ rest, root ∉ table.keys := by
          obtain ⟨root, hroot, hunknown⟩ := h
          rcases List.mem_cons.mp hroot with rfl | hroot
          · exact absurd hfirst hunknown
          · exact ⟨root, hroot, hunknown⟩
        obtain ⟨root, hroot, hunknown, hmembers⟩ :=
          ih (put (.text first) (table.rootValue wrapRoot first) members) hrest
        refine ⟨root, List.mem_cons_of_mem first hroot, hunknown, ?_⟩
        rw [publishOnto, hpublish]
        exact hmembers
      · refine ⟨first, List.mem_cons_self, hfirst, ?_⟩
        rw [publishOnto, publishRoot_eq_error wrapRoot hfirst]

theorem members_publish_of_unknown (wrapRoot : Bool) {roots : List String}
    (h : ∃ root ∈ roots, root ∉ table.keys) :
    ∃ root ∈ roots, root ∉ table.keys ∧
      (table.publish wrapRoot roots).members = .error (.unknownType (.str root)) :=
  members_publishOnto_of_unknown wrapRoot [] h

theorem textual_rootMembers (wrapRoot : Bool) {roots : List String}
    (h : ∀ root ∈ roots, root ∈ table.keys) (hnodup : roots.Nodup) :
    Json.Textual (.dict (table.rootMembers wrapRoot roots)) := by
  refine .dict ?_ ?_ (nodup_keys_rootMembers hnodup)
  · intro member hmember
    obtain ⟨root, -, rfl⟩ := List.mem_map.mp hmember
    exact ⟨root, rfl⟩
  · intro member hmember
    obtain ⟨root, hroot, rfl⟩ := List.mem_map.mp hmember
    obtain ⟨-, -, -, htextual⟩ := publishRoot_eq_ok wrapRoot (h root hroot)
    exact htextual

/-- Whatever the indentation, the JSON text of a publication of known roots reads back as its
members. These are named by the distinct roots in the order in which they first occur, and the value
of each is the one that documents it alone, which reads back as what building it gives. -/
theorem publish_reads_back (table : RecordTable) (wrapRoot : Bool) {roots : List String}
    (hknown : ∀ root ∈ roots, root ∈ table.keys) :
    ∃ members, (table.publish wrapRoot roots).members = .ok members ∧
      (∀ indent,
        Json.read (OutputFormat.json.write indent (.dict members)) = .ok (.dict members)) ∧
      members.map Prod.fst = roots.eraseDups.map .text ∧
      ∀ root ∈ roots, ∃ value notes, lookup? root members = some value ∧
        table.publishRoot wrapRoot root = .ok (value, notes) ∧
        table.Documents wrapRoot root value := by
  have hdistinct : roots.eraseDups.Nodup := nodup_eraseDups roots
  have hall : ∀ root ∈ roots.eraseDups, root ∈ table.keys := by
    intro root hroot
    exact hknown root (List.mem_eraseDups.mp hroot)
  refine ⟨_, members_publish wrapRoot hknown, ?_, map_fst_rootMembers _ _ _, ?_⟩
  · intro indent
    exact (textual_rootMembers wrapRoot hall hdistinct).read_write indent
  · intro root hroot
    obtain ⟨notes, hpublish, hdocuments, -⟩ := publishRoot_eq_ok wrapRoot (hknown root hroot)
    refine ⟨_, notes, ?_, hpublish, hdocuments⟩
    apply lookup?_of_mem (nodup_keys_rootMembers hdistinct)
    exact List.mem_map.mpr ⟨root, List.mem_eraseDups.mpr hroot, rfl⟩

/-- A book that is asked for twice is documented once, before the card. -/
theorem library_publish_reads_back :
    (∀ root ∈ ["Book", "Card", "Book"], root ∈ library.keys) ∧
      ∃ members, (library.publish false ["Book", "Card", "Book"]).members = .ok members ∧
        (∀ indent,
          Json.read (OutputFormat.json.write indent (.dict members)) = .ok (.dict members)) ∧
        members.map Prod.fst = [.text "Book", .text "Card"] ∧
        ∀ root ∈ ["Book", "Card", "Book"], ∃ value notes, lookup? root members = some value ∧
          library.publishRoot false root = .ok (value, notes) ∧
          library.Documents false root value :=
  ⟨by decide, library.publish_reads_back false (by decide)⟩

end RecordDocs.RecordTable
