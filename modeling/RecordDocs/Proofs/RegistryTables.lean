import RecordDocs.Proofs.RegistryMerging

/-!
# Tables as registries

Every registry can be seen as a table, and a table is one seen so if every name in it is that of its
record. Making a registry of a table undoes this and nothing else: a table that is no registry is
refused with the first name that does not fit. That two records have one name cannot come up, though
one record may stand under many names: as the names in a table are distinct, all of these but one
are not the record's own.
-/

namespace RecordDocs

namespace RecordTable

def HasOwnNames (table : RecordTable) : Prop :=
  ∀ entry ∈ table.entries, entry.1 = entry.2.typeName

def FirstMismatch (table : RecordTable) (key : String) (record : RecordDefinition) : Prop :=
  key ≠ record.typeName ∧ ∃ front back, table.entries = front ++ (key, record) :: back ∧
    ∀ entry ∈ front, entry.1 = entry.2.typeName

theorem ext {table other : RecordTable} (h : table.entries = other.entries) : table = other := by
  obtain ⟨entries, _⟩ := table
  cases h
  rfl

end RecordTable

namespace Registry

variable {table : RecordTable} {registry : Registry} {key : String} {record : RecordDefinition}

/-! ### The names that are checked -/

theorem firstMismatch_eq_none_iff : firstMismatch table = none ↔ table.HasOwnNames := by
  simp [firstMismatch, RecordTable.HasOwnNames]

theorem firstMismatch_eq_some_iff :
    firstMismatch table = some (key, record) ↔ table.FirstMismatch key record := by
  simp [firstMismatch, RecordTable.FirstMismatch, List.find?_eq_some_iff_append]

/-! ### Registries seen as tables -/

theorem hasOwnNames_table (registry : Registry) : registry.table.HasOwnNames := by
  intro entry hentry
  obtain ⟨record, -, rfl⟩ := List.mem_map.mp hentry
  rfl

theorem get?_table (registry : Registry) (name : String) :
    registry.table.get? name = registry.get? name := by
  obtain ⟨records, _⟩ := registry
  change (records.map fun record => (record.typeName, record)).lookup name
    = records.find? fun record => record.typeName == name
  clear * -
  induction records with
  | nil => rfl
  | cons record rest ih =>
      rw [List.map_cons, List.lookup_cons, List.find?_cons, ih, BEq.comm]

theorem nodup_of_hasOwnNames (h : table.HasOwnNames) :
    ((table.entries.map Prod.snd).map (·.typeName)).Nodup := by
  have hnames : (table.entries.map Prod.snd).map (·.typeName) = table.keys := by
    rw [List.map_map]
    exact List.map_congr_left fun entry hentry => (h entry hentry).symm
  rw [hnames]
  exact table.keys_nodup

/-- A table is made a registry exactly if it is that registry seen as a table. -/
theorem ofTable_eq_ok_iff : ofTable table = .ok registry ↔ registry.table = table := by
  constructor
  · intro h
    obtain ⟨hnames, hrecords⟩ := ofTable_eq_ok h
    refine RecordTable.ext ?_
    calc registry.table.entries
        = (table.entries.map Prod.snd).map fun record => (record.typeName, record) := by
          rw [← hrecords]
          rfl
      _ = table.entries.map id := by
          rw [List.map_map]
          refine List.map_congr_left fun entry hentry => ?_
          exact Prod.ext (hnames entry hentry).symm rfl
      _ = table.entries := List.map_id _
  · rintro rfl
    have hrecords : registry.table.entries.map Prod.snd = registry.records := by
      rw [table, List.map_map]
      exact List.map_id _
    rw [ofTable, firstMismatch_eq_none_iff.mpr registry.hasOwnNames_table, hrecords]
    exact registry.ofEntries_records

theorem exists_ofTable_eq_ok_iff :
    (∃ registry, ofTable table = .ok registry) ↔ table.HasOwnNames := by
  constructor
  · rintro ⟨registry, h⟩
    exact (ofTable_eq_ok h).1
  · intro h
    obtain ⟨registry, hregistry, -⟩ := exists_ofRecords_eq_ok (nodup_of_hasOwnNames h)
    refine ⟨registry, ?_⟩
    rw [ofTable, firstMismatch_eq_none_iff.mpr h]
    exact hregistry

theorem ofTable_eq_error_iff {cause : RegistryError} : ofTable table = .error cause ↔
    ∃ key record, table.FirstMismatch key record ∧ cause = .keyMismatch key record.typeName := by
  cases hmismatch : firstMismatch table with
  | none =>
      obtain ⟨registry, hregistry⟩ :=
        exists_ofTable_eq_ok_iff.mpr (firstMismatch_eq_none_iff.mp hmismatch)
      have hnone : ∀ key record, ¬ table.FirstMismatch key record := by
        intro key record hfirst
        rw [firstMismatch_eq_some_iff.mpr hfirst] at hmismatch
        cases hmismatch
      simp [hregistry, hnone]
  | some mismatch =>
      obtain ⟨key, record⟩ := mismatch
      have herror : ofTable table = .error (.keyMismatch key record.typeName) := by
        rw [ofTable, hmismatch]
      rw [herror]
      constructor
      · intro h
        cases h
        exact ⟨key, record, firstMismatch_eq_some_iff.mp hmismatch, rfl⟩
      · rintro ⟨other, otherRecord, hfirst, rfl⟩
        rw [← firstMismatch_eq_some_iff, hmismatch] at hfirst
        cases hfirst
        rfl

/-- **Tables as registries.** A table can be made a registry if and only if every name in it is the
name of its record. Otherwise the error names the first that is not, in the order of the table, and
never a name that two records have. The registry is that one which, seen as a table, is the table:
with the same names in the same order and the same record under each. And every registry is made
again of the table it is seen as. -/
theorem ofTable_inverts_table :
    (∀ table : RecordTable,
      ((∃ registry, ofTable table = .ok registry) ↔ table.HasOwnNames) ∧
      (∀ cause, ofTable table = .error cause ↔ ∃ key record,
        table.FirstMismatch key record ∧ cause = .keyMismatch key record.typeName) ∧
      ∀ registry, ofTable table = .ok registry →
        registry.table = table ∧ registry.typeNames = table.keys ∧
          ∀ name, registry.get? name = table.get? name) ∧
    ∀ registry : Registry, ofTable registry.table = .ok registry := by
  refine ⟨fun table => ⟨exists_ofTable_eq_ok_iff, fun _ => ofTable_eq_error_iff,
    fun registry h => ?_⟩, fun registry => ofTable_eq_ok_iff.mpr rfl⟩
  obtain rfl := ofTable_eq_ok_iff.mp h
  exact ⟨rfl, registry.keys_table.symm, fun name => (registry.get?_table name).symm⟩

open RecordTable (book author works) in
/-- A table with one book under two names is refused for the second of them, and works are made
again of their table. -/
theorem book_twice_is_no_registry :
    ofTable ⟨[("Book", book), ("Tome", book), ("Author", author)], by decide⟩
        = .error (.keyMismatch "Tome" "Book") ∧
      ofTable works.table = .ok works ∧ works.typeNames = works.table.keys := by
  obtain ⟨htables, hagain⟩ := ofTable_inverts_table
  refine ⟨?_, hagain works, ((htables works.table).2.2 works (hagain works)).2.1⟩
  rw [(htables _).2.1]
  exact ⟨"Tome", book, ⟨by decide, [("Book", book)], [("Author", author)], rfl, by decide⟩, rfl⟩

end Registry

end RecordDocs
