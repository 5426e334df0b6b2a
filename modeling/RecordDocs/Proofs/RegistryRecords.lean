import RecordDocs.Registry

/-!
# What registries and tables are made of

A registry that is made from entries holds their records in order, and merging puts records behind
those that are there. A table of entries under distinct names holds just these entries.
-/

namespace RecordDocs

namespace Registry

theorem keys_table (registry : Registry) : registry.table.keys = registry.typeNames := by
  rw [RecordTable.keys, table, List.map_map]
  rfl

theorem add_eq_ok {registry larger : Registry} {record : RecordDefinition}
    (h : registry.add record = .ok larger) : larger.records = registry.records ++ [record] := by
  rw [add] at h
  split at h
  · cases h
  · cases h
    rfl

theorem entries_table_append {registry larger : Registry} {others : List RecordDefinition}
    (h : larger.records = registry.records ++ others) :
    larger.table.entries
      = registry.table.entries ++ others.map fun record => (record.typeName, record) := by
  change larger.records.map _ = registry.records.map _ ++ others.map _
  rw [h, List.map_append]

theorem addAll_eq_ok {registry larger : Registry} {entries : List Entry}
    (h : registry.addAll entries = .ok larger) :
    ∃ added : List RecordDefinition, entries = added.map .record ∧
      larger.records = registry.records ++ added := by
  induction entries generalizing registry with
  | nil =>
      cases h
      exact ⟨[], rfl, (List.append_nil _).symm⟩
  | cons entry rest ih =>
      rw [addAll, List.foldlM_cons] at h
      cases hentry : registry.addEntry entry with
      | error cause =>
          rw [hentry] at h
          cases h
      | ok next =>
          rw [hentry] at h
          have hrest : next.addAll rest = .ok larger := h
          obtain ⟨added, rfl, hrecords⟩ := ih hrest
          cases entry with
          | foreign value => cases hentry
          | record record =>
              refine ⟨record :: added, rfl, ?_⟩
              rw [hrecords, add_eq_ok hentry, List.append_assoc]
              rfl

theorem ofRecords_eq_ok {registry : Registry} {records : List RecordDefinition}
    (h : ofRecords records = .ok registry) : registry.records = records := by
  obtain ⟨added, hadded, hrecords⟩ := addAll_eq_ok h
  rw [hrecords, ← (List.map_inj_right fun _ _ heq => Entry.record.inj heq).mp hadded]
  rfl

theorem ofTable_eq_ok {table : RecordTable} {registry : Registry}
    (h : ofTable table = .ok registry) :
    (∀ entry ∈ table.entries, entry.1 = entry.2.typeName) ∧
      registry.records = table.entries.map Prod.snd := by
  rw [ofTable] at h
  split at h
  · cases h
  · rename_i hnone
    refine ⟨fun entry hentry => ?_, ofRecords_eq_ok h⟩
    simpa using List.find?_eq_none.mp hnone entry hentry

theorem exists_added_of_merged {registry larger : Registry} {entries : List Entry}
    (h : registry.merged entries = .ok larger) :
    ∃ added : List RecordDefinition, entries = added.map .record ∧
      larger.records = registry.records ++ added := by
  obtain ⟨all, hall, hrecords⟩ := addAll_eq_ok h
  obtain ⟨own, added, rfl, hown, hadded⟩ := List.map_eq_append_iff.mp hall.symm
  rw [List.map_inj_right fun _ _ heq => Entry.record.inj heq] at hown
  exact ⟨added, hadded.symm, by rw [hrecords, hown]; rfl⟩

theorem merged_eq_ok {registry larger : Registry} {others : List RecordDefinition}
    (h : registry.merged (others.map .record) = .ok larger) :
    larger.records = registry.records ++ others := by
  obtain ⟨added, hadded, hrecords⟩ := exists_added_of_merged h
  rw [hrecords, (List.map_inj_right fun _ _ heq => Entry.record.inj heq).mp hadded]

theorem add_of_not_mem {registry : Registry} {record : RecordDefinition}
    (h : record.typeName ∉ registry.typeNames) :
    ∃ larger, registry.add record = .ok larger ∧
      larger.typeNames = registry.typeNames ++ [record.typeName] := by
  rw [add, dif_neg h]
  refine ⟨_, rfl, ?_⟩
  exact List.map_append

/-- Records with new and distinct names can be added. -/
theorem exists_addAll_eq_ok {registry : Registry} {records : List RecordDefinition}
    (h : (registry.typeNames ++ records.map (·.typeName)).Nodup) :
    ∃ larger, registry.addAll (records.map .record) = .ok larger := by
  induction records generalizing registry with
  | nil => exact ⟨registry, rfl⟩
  | cons record rest ih =>
      have hnew : record.typeName ∉ registry.typeNames := by
        intro hmem
        exact (List.nodup_append.mp h).2.2 _ hmem _ List.mem_cons_self rfl
      obtain ⟨next, hadd, hnames⟩ := add_of_not_mem hnew
      have hnext : (next.typeNames ++ rest.map (·.typeName)).Nodup := by
        rw [hnames]
        simpa using h
      obtain ⟨larger, hrest⟩ := ih hnext
      refine ⟨larger, ?_⟩
      rw [addAll, List.map_cons, List.foldlM_cons, addEntry, hadd]
      exact hrest

theorem exists_ofRecords_eq_ok {records : List RecordDefinition}
    (h : (records.map (·.typeName)).Nodup) :
    ∃ registry, ofRecords records = .ok registry ∧ registry.records = records := by
  have hall : (empty.typeNames ++ records.map (·.typeName)).Nodup := h
  obtain ⟨registry, hregistry⟩ := exists_addAll_eq_ok hall
  exact ⟨registry, hregistry, ofRecords_eq_ok hregistry⟩

end Registry

namespace RecordTable

theorem entries_foldl_insert {table : RecordTable} {entries : List (String × RecordDefinition)}
    (h : (table.keys ++ entries.map Prod.fst).Nodup) :
    (entries.foldl (fun table entry => table.insert entry.1 entry.2) table).entries
      = table.entries ++ entries := by
  induction entries generalizing table with
  | nil => exact (List.append_nil _).symm
  | cons entry rest ih =>
      have hnew : entry.1 ∉ table.keys := by
        intro hmem
        exact (List.nodup_append.mp h).2.2 _ hmem _ List.mem_cons_self rfl
      have hentries : (table.insert entry.1 entry.2).entries = table.entries ++ [entry] :=
        put_of_not_mem hnew
      rw [List.foldl_cons, ih, hentries, List.append_assoc]
      · rfl
      · rw [keys, hentries]
        simpa [keys] using h

theorem entries_ofEntries {entries : List (String × RecordDefinition)}
    (h : (entries.map Prod.fst).Nodup) : (ofEntries entries).entries = entries := by
  rw [ofEntries, entries_foldl_insert]
  · rfl
  · exact h

end RecordTable

end RecordDocs
