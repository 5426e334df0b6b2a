import Mathlib.Data.List.Perm.Basic
import RecordDocs.Proofs.ExpansionParts
import RecordDocs.Proofs.RegistryRecords

/-!
# Locality of building

What is built for a root depends on the table only through the records that the root reaches, and
through which of the texts in their signatures are names of the table. Two tables that agree on
these build the same docs and make the same notes: the two expansions stay in step, because every
record that they come to is reached from the root.
-/

namespace RecordDocs

open Text

/-- The texts that decide what a signature refers to: the whole of it, trimmed, and its
arguments. -/
def mentions (signature : String) : List String :=
  strip signature :: argumentsOf signature

section Known

variable {known other : String → Bool} {signature : String}

theorem references_congr (h : ∀ mention ∈ mentions signature, known mention = other mention) :
    references known signature = references other signature := by
  have hwhole : known (strip signature) = other (strip signature) := h _ List.mem_cons_self
  have harguments : ((argumentsOf signature).filter fun argument => argument ≠ "" && known argument)
      = (argumentsOf signature).filter fun argument => argument ≠ "" && other argument := by
    refine List.filter_congr fun argument hargument => ?_
    rw [h argument (List.mem_cons_of_mem _ hargument)]
  rw [references_eq_ite, references_eq_ite, hwhole, harguments]

theorem references_eq_of_known (hmore : ∀ name, known name = true → other name = true)
    (hold : ∀ target ∈ references other signature, known target = true) :
    references known signature = references other signature := by
  rw [references_eq_ite] at hold
  rw [references_eq_ite, references_eq_ite]
  by_cases hblank : strip signature = ""
  · rw [if_pos hblank, if_pos hblank]
  · rw [if_neg hblank] at hold ⊢
    rw [if_neg hblank]
    by_cases hwhole : other (strip signature) = true
    · rw [if_pos hwhole] at hold ⊢
      rw [if_pos (hold _ (List.mem_singleton_self _))]
    · rw [if_neg hwhole] at hold ⊢
      rw [if_neg (mt (hmore _) hwhole)]
      congr 1
      refine List.filter_congr fun argument hargument => ?_
      by_cases hother : (argument ≠ "" && other argument) = true
      · have hknown := hold argument (mem_distinctFrom.mpr
          ⟨List.mem_filter.mpr ⟨hargument, hother⟩, List.not_mem_nil⟩)
        rw [Bool.and_eq_true] at hother
        simp [hother, hknown]
      · have hknown : ¬ (argument ≠ "" && known argument) = true := by
          rw [Bool.and_eq_true] at hother ⊢
          exact fun hboth => hother ⟨hboth.1, hmore _ hboth.2⟩
        rw [Bool.eq_false_iff.mpr hother, Bool.eq_false_iff.mpr hknown]

end Known

namespace RecordTable

variable {table other : RecordTable} {root name : String} {path : List String}
  {record : RecordDefinition}

def Mentions (table : RecordTable) (root mention : String) : Prop :=
  ∃ name record, table.Reaches root name ∧ table.get? name = some record ∧
    ∃ field ∈ record.fields, mention ∈ mentions field.signature

/-- The second table has the same records under the names that the root reaches in the first, and
the signatures of these records refer to the same names. -/
structure AgreesFrom (table other : RecordTable) (root : String) : Prop where
  get?_eq : ∀ name, table.Reaches root name → other.get? name = table.get? name
  references_eq : ∀ name record, table.Reaches root name → table.get? name = some record →
    ∀ field ∈ record.fields,
      other.references field.signature = table.references field.signature

theorem agreesFrom_of_mentions
    (hget : ∀ name, table.Reaches root name → other.get? name = table.get? name)
    (hkeys : ∀ mention, table.Mentions root mention →
      (mention ∈ other.keys ↔ mention ∈ table.keys)) : table.AgreesFrom other root := by
  refine ⟨hget, fun name record hreaches hname field hfield => ?_⟩
  refine references_congr fun mention hmention => ?_
  have hiff := hkeys mention ⟨name, record, hreaches, hname, field, hfield, hmention⟩
  simp only [contains, List.contains_eq_mem]
  exact decide_eq_decide.mpr hiff

theorem AgreesFrom.expandFields_eq (h : table.AgreesFrom other root)
    (hreaches : table.Reaches root name) (hget : table.get? name = some record) :
    other.expandFields path record.fields = table.expandFields path record.fields := by
  induction path using table.path_induction generalizing name record with
  | step path ih =>
      refine expandFields_congr (h.references_eq name record hreaches hget) ?_
      intro field hfield target htarget
      rcases expandTarget_cases path htarget with ⟨hmem, hnote⟩ | ⟨hnew, next, hnext, hexpand⟩
      · rw [hnote, expandTarget_of_mem hmem]
      · have hreachesNext : table.Reaches root target :=
          hreaches.tail ⟨record, hget, field, hfield, htarget⟩
        have hnextOther := (h.get?_eq target hreachesNext).trans hnext
        rw [hexpand, expandTarget_of_get? hnew hnextOther]
        exact ih target next hnew hnext hreachesNext hnext

theorem AgreesFrom.build_eq (h : table.AgreesFrom other root) (hroot : root ∈ table.keys)
    (visiting : List String) : other.build root visiting = table.build root visiting := by
  have hreaches : table.Reaches root root := Relation.ReflTransGen.refl
  obtain ⟨record, hget⟩ := exists_get?_of_mem_keys hroot
  rw [build_eq_ok visiting hget, build_eq_ok visiting ((h.get?_eq root hreaches).trans hget),
    h.expandFields_eq hreaches hget]

/-! ### Tables that agree -/

theorem build_eq_of_get?_eq (h : ∀ name, other.get? name = table.get? name) (root : String)
    (visiting : List String) : other.build root visiting = table.build root visiting := by
  have hkeys : ∀ name, name ∈ other.keys ↔ name ∈ table.keys := by
    intro name
    rw [← not_iff_not, ← get?_eq_none_iff, ← get?_eq_none_iff, h]
  by_cases hroot : root ∈ table.keys
  · have hagrees : table.AgreesFrom other root :=
      agreesFrom_of_mentions (fun name _ => h name) fun mention _ => hkeys mention
    exact hagrees.build_eq hroot visiting
  · rw [build_eq_error visiting hroot, build_eq_error visiting (mt (hkeys root).mp hroot)]

theorem get?_eq_of_perm (h : table.entries.Perm other.entries) (name : String) :
    other.get? name = table.get? name := by
  refine Option.ext fun record => ?_
  rw [get?_eq_some_iff, get?_eq_some_iff, h.mem_iff]

theorem agreesFrom_of_merged {registry larger : Registry} {others : List RecordDefinition}
    (hmerged : registry.merged (others.map .record) = .ok larger)
    (hroot : root ∈ registry.typeNames)
    (hunreached : ∀ extra ∈ others, ¬ larger.table.Reaches root extra.typeName) :
    larger.table.AgreesFrom registry.table root := by
  have hentries := Registry.entries_table_append (Registry.merged_eq_ok hmerged)
  have hkeys : larger.table.keys = registry.table.keys ++ others.map (·.typeName) := by
    rw [keys, keys, hentries, List.map_append, List.map_map]
    rfl
  have hold : ∀ name, larger.table.Reaches root name → name ∈ registry.table.keys := by
    intro name hreaches
    have hname := hreaches.mem_keys (by rw [hkeys, registry.keys_table]; simp [hroot])
    rw [hkeys, List.mem_append] at hname
    refine hname.resolve_right fun hextra => ?_
    obtain ⟨extra, hmem, rfl⟩ := List.mem_map.mp hextra
    exact hunreached extra hmem hreaches
  constructor
  · intro name hreaches
    obtain ⟨record, hget⟩ := exists_get?_of_mem_keys (hold name hreaches)
    rw [hget, eq_comm, get?_eq_some_iff, hentries]
    exact List.mem_append_left _ (get?_eq_some_iff.mp hget)
  · intro name record hreaches hget field hfield
    refine references_eq_of_known (fun known hknown => ?_) fun target htarget => ?_
    · rw [contains, List.contains_iff_mem] at hknown ⊢
      rw [hkeys]
      exact List.mem_append_left _ hknown
    · rw [contains, List.contains_iff_mem]
      exact hold target (hreaches.tail ⟨record, hget, field, hfield, htarget⟩)

/-- **Building is local.** Tables with the same records in reach of a root, and with the same names
among the texts in the signatures of these, build the same for it. So the order of the entries does
not matter, nor whether the records of a registry stand in a registry or in a table under their
names, nor what is merged into a registry as long as the root does not reach it. -/
theorem build_local (root : String) (visiting : List String) :
    (∀ table other : RecordTable, root ∈ table.keys →
      (∀ name, table.Reaches root name → other.get? name = table.get? name) →
      (∀ mention, table.Mentions root mention → (mention ∈ other.keys ↔ mention ∈ table.keys)) →
      other.build root visiting = table.build root visiting) ∧
    (∀ table other : RecordTable, table.entries.Perm other.entries →
      other.build root visiting = table.build root visiting) ∧
    (∀ (registry : Registry) (entries : List (String × RecordDefinition)),
      registry.table.entries.Perm entries →
      (ofEntries entries).build root visiting = registry.table.build root visiting) ∧
    (∀ (registry larger : Registry) (others : List RecordDefinition),
      registry.merged (others.map .record) = .ok larger → root ∈ registry.typeNames →
      (∀ extra ∈ others, ¬ larger.table.Reaches root extra.typeName) →
      larger.table.build root visiting = registry.table.build root visiting) := by
  refine ⟨?_, ?_, ?_, ?_⟩
  · intro table other hroot hget hkeys
    exact (agreesFrom_of_mentions hget hkeys).build_eq hroot visiting
  · intro table other hperm
    exact build_eq_of_get?_eq (get?_eq_of_perm hperm) root visiting
  · intro registry entries hperm
    have hnodup : (entries.map Prod.fst).Nodup :=
      (hperm.map Prod.fst).nodup_iff.mp registry.table.keys_nodup
    refine build_eq_of_get?_eq (get?_eq_of_perm ?_) root visiting
    rwa [entries_ofEntries hnodup]
  · intro registry larger others hmerged hroot hunreached
    have hlarger : root ∈ larger.table.keys := by
      rw [larger.keys_table, Registry.typeNames, Registry.merged_eq_ok hmerged, List.map_append]
      exact List.mem_append_left _ hroot
    exact ((agreesFrom_of_merged hmerged hroot hunreached).build_eq hlarger visiting).symm

def branch : RecordTable where
  entries := [("Author", author),
    ("Reader", ⟨"Reader", [⟨"loans", "List<Book>", [], by decide⟩], [], by decide⟩), ("Book", book)]
  keys_nodup := by decide

def works : Registry where
  records := [book, author]
  names_nodup := by decide

def holdings : Registry where
  records := [book, author, card]
  names_nodup := by decide

/-- A book reaches books and authors only, so neither readers nor cards make a difference to it. -/
theorem branch_build_book :
    "Book" ∈ library.keys ∧
      branch.build "Book" ["Card"] = library.build "Book" ["Card"] ∧
      works.merged [.record card] = .ok holdings ∧
      holdings.table.build "Book" ["Card"] = works.table.build "Book" ["Card"] := by
  have hmerged : works.merged [.record card] = .ok holdings := rfl
  obtain ⟨hagreeing, _, _, hmerging⟩ := build_local "Book" ["Card"]
  refine ⟨by decide, hagreeing library branch (by decide) ?_ ?_, hmerged,
    hmerging works holdings [card] hmerged (by decide) ?_⟩
  · intro name hreaches
    have hname : name ∈ ["Book", "Author"] := hreaches.mem_of_closed (by decide) (by decide)
    have hsame : ∀ name ∈ ["Book", "Author"], branch.get? name = library.get? name := by decide
    exact hsame name hname
  · rintro mention ⟨name, record, _, hget, field, hfield, hmention⟩
    have hsame : ∀ entry ∈ library.entries, ∀ field ∈ entry.2.fields,
        ∀ mention ∈ mentions field.signature, mention ∈ branch.keys ↔ mention ∈ library.keys := by
      decide
    exact hsame _ (get?_eq_some_iff.mp hget) field hfield mention hmention
  · intro extra hextra hreaches
    have hname : extra.typeName ∈ ["Book", "Author"] :=
      hreaches.mem_of_closed (by decide) (by decide)
    rw [List.mem_singleton.mp hextra] at hname
    exact absurd hname (by decide)

end RecordTable

end RecordDocs
