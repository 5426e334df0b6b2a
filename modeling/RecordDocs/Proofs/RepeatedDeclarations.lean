import RecordDocs.Proofs.DeclaredNames
import RecordDocs.Proofs.RepeatedMembers
import RecordDocs.Proofs.SchemaFiles

/-!
# Names that are declared again

A registry refuses two records of one name, and a record two fields of one name. A JSON text that
declares a type name again is not refused: its members are merged while it is read, before anything
looks at the names, so that a registry is offered each name once. What was declared under a name is
lost up to the last time, and a registry has as many records as the text declares exactly if no name
occurs again.
-/

namespace RecordDocs

open Frontend Text

theorem length_eraseDups_eq_iff {κ : Type} [DecidableEq κ] {keys : List κ} :
    keys.eraseDups.length = keys.length ↔ keys.Nodup := by
  have hsame : ∀ key, key ∈ keys.eraseDups ↔ key ∈ keys := fun _ => List.mem_eraseDups
  constructor
  · intro hlength
    have hsub : keys.eraseDups.Subperm keys :=
      List.subperm_of_subset (nodup_eraseDups keys) fun key => (hsame key).mp
    exact (hsub.perm_of_length_le hlength.ge).nodup_iff.mp (nodup_eraseDups keys)
  · intro hnodup
    exact ((List.perm_ext_iff_of_nodup (nodup_eraseDups keys) hnodup).mpr hsame).length_eq

/-- The octets are a JSON text, which is the document if it is read verbatim. -/
def HoldsVerbatim (content : List UInt8) (document : Value) : Prop :=
  ∃ chars, decodeUtf8 content = .ok chars ∧
    Json.verbatim (String.ofList (normaliseNewlines chars)) = .ok document

theorem HoldsVerbatim.exists_read {content : List UInt8} {document : Value}
    (h : HoldsVerbatim content document) :
    ∃ chars, decodeUtf8 content = .ok chars ∧
      Json.read (String.ofList (normaliseNewlines chars)) = .ok document.merged := by
  obtain ⟨chars, hdecode, hverbatim⟩ := h
  refine ⟨chars, hdecode, ?_⟩
  rw [Json.read_eq_map_merged, hverbatim]
  rfl

namespace Schema

/-- The records that a document declares, one for each member as it stands in the text. Where the
records occur again as a whole, the last counts. -/
def declared : Value → List (Key × Value)
  | .dict members =>
      match lookup? "records" members.reverse with
      | some (.dict entries) => entries
      | _ => []
  | _ => []

theorem Offers.eq_merged_declared {document : Value} {entries : List (Key × Value)}
    (h : Offers document.merged entries) :
    entries = putAll [] (Value.mergedMembers (declared document)) := by
  cases document with
  | null =>
      cases h
      rfl
  | dict members =>
      have hlast := Value.lookup?_putAll_mergedMembers "records" members
      rw [Value.merged] at h
      rw [declared]
      cases h with
      | missing hnone =>
          rw [hnone, eq_comm, Option.map_eq_none_iff] at hlast
          rw [hlast]
          rfl
      | nullRecords hnull =>
          rw [hnull, eq_comm, Option.map_eq_some_iff] at hlast
          obtain ⟨found, hfound, hmerged⟩ := hlast
          rw [hfound]
          cases found with
          | dict _ => cases hmerged
          | _ => rfl
      | records hrecords =>
          rw [hrecords, eq_comm, Option.map_eq_some_iff] at hlast
          obtain ⟨found, hfound, hmerged⟩ := hlast
          rw [hfound]
          cases found with
          | dict _ =>
              cases hmerged
              rfl
          | _ => cases hmerged
  | _ => cases h

end Schema

section

variable {tree : FileTree} {path source : Path} {content : List UInt8} {chars : List Char}
  {document value : Value}

/-- From a JSON text that is a schema document a registry is loaded; of any other that is read, the
document is refused. -/
theorem IsSchemaFile.loadRegistry_of_read (h : IsSchemaFile tree path source .json content)
    (hdecode : decodeUtf8 content = .ok chars)
    (hread : Json.read (String.ofList (normaliseNewlines chars)) = .ok value) :
    (Schema.IsDocument value ∧ ∃ entries records registry messages,
        Schema.Offers value entries ∧ Schema.readRecords entries = .ok records ∧
        Registry.ofRecords records = .ok registry ∧
        loadRegistry tree [] path = .ok ⟨registry, messages⟩) ∨
      ¬ Schema.IsDocument value ∧
        ∃ fault, loadRegistry tree [] path = .error (.schema (.document source.name fault)) := by
  have hblank : (normaliseNewlines chars).all isBlank = false := by
    simpa using Json.not_all_isBlank_of_read hread
  have hjson : Json.IsJson value := .of_read hread
  have hdecides := Schema.readDocument_decides hjson
  rw [h.loadRegistry_eq, h.loadSchema_of_text hdecode hblank, read_json_eq_ok_iff.mpr hread,
    ok_bind, readRecords]
  cases hdocument : Schema.readDocument value with
  | error cause =>
      obtain ⟨fault, rfl, hrefused⟩ := hdecides.exists_fault hdocument
      exact .inr ⟨hrefused, fault, rfl⟩
  | ok records =>
      obtain ⟨entries, hoffers, hdeclares⟩ := hdecides.said_of_ok hdocument
      obtain ⟨registry, hregistry, -⟩ :=
        Schema.exists_registry_of_declares (hoffers.isJson hjson) hdeclares
      have hcollect : collectRecords source.name .empty (records.map .ok) = .ok registry := by
        rw [collectRecords_map_ok]
        exact congrArg (Except.mapError _) hregistry
      refine .inl ⟨hdecides.exists_ok_iff.mp ⟨records, hdocument⟩, entries, records, registry,
        [loadedMessage source.name records.length], hoffers, ?_, hregistry, ?_⟩
      · rw [← hoffers.readDocument_eq, hdocument]
      · change (collectRecords source.name .empty (records.map .ok)).map _ = _
        rw [hcollect]
        rfl

/-- **What is declared again is lost, not refused.** However often the names of a JSON text are
declared again, the registry's own check never fires: the registry is loaded exactly if the
document, merged, is a schema document. It has each name once, in the place where it came first,
with the record that was declared under it last. So it has as many records as the text declares
exactly if no name is declared again. -/
theorem loadRegistry_keeps_last_declarations
    (hfile : IsSchemaFile tree path source .json content)
    (htext : HoldsVerbatim content document) :
    (∀ name cause, loadRegistry tree [] path ≠ .error (.schema (.registry name cause))) ∧
    ((∃ loaded, loadRegistry tree [] path = .ok loaded) ↔ Schema.IsDocument document.merged) ∧
    ∀ loaded, loadRegistry tree [] path = .ok loaded →
      loaded.registry.typeNames.map Key.text
          = ((Schema.declared document).map Prod.fst).eraseDups ∧
      (∀ record ∈ loaded.registry.records, ∃ before body after,
        Schema.declared document = before ++ (.text record.typeName, body) :: after ∧
        .text record.typeName ∉ after.map Prod.fst ∧
        Schema.readRecord (.text record.typeName, body.merged) = .ok record) ∧
      (loaded.registry.size = (Schema.declared document).length ↔
        ((Schema.declared document).map Prod.fst).Nodup) := by
  obtain ⟨chars, hdecode, hread⟩ := htext.exists_read
  rcases hfile.loadRegistry_of_read hdecode hread with
    ⟨hdocument, entries, records, registry, messages, hoffers, hrecords, hregistry, hload⟩
      | ⟨hrefused, fault, hload⟩
  · rw [hoffers.eq_merged_declared] at hrecords
    have hnames : registry.typeNames.map Key.text
        = ((Schema.declared document).map Prod.fst).eraseDups := by
      rw [← Value.map_fst_putAll_mergedMembers, Schema.keys_of_readRecords hrecords,
        Registry.typeNames, Registry.ofRecords_eq_ok hregistry, List.map_map]
      rfl
    refine ⟨fun name cause herror => ?_, iff_of_true ⟨_, hload⟩ hdocument, fun loaded hloaded => ?_⟩
    · cases hload.symm.trans herror
    · cases hload.symm.trans hloaded
      refine ⟨hnames, fun record hrecord => ?_, ?_⟩
      · rw [Registry.ofRecords_eq_ok hregistry] at hrecord
        obtain ⟨⟨key, body⟩, hentry, hbody⟩ :=
          exists_mem_of_forall₂ (Schema.forall₂_of_readRecords hrecords) hrecord
        obtain rfl : key = .text record.typeName := Schema.key_of_readRecord hbody
        obtain ⟨before, last, after, hsplit, hlast, rfl⟩ := Value.exists_last_of_mem_putAll hentry
        exact ⟨before, last, after, hsplit, hlast, hbody⟩
      · have hsize : registry.size
            = ((Schema.declared document).map Prod.fst).eraseDups.length := by
          rw [← hnames, List.length_map, Registry.typeNames, List.length_map, Registry.size]
        rw [hsize, ← length_eraseDups_eq_iff, List.length_map]
  · refine ⟨fun name cause herror => ?_, iff_of_false ?_ hrefused, fun loaded hloaded => ?_⟩
    · cases hload.symm.trans herror
    · exact hload ▸ not_exists_error_eq_ok
    · cases hload.symm.trans hloaded

end

def twiceText : String :=
  "\x7b\"records\": \x7b\"Row\": \x7b\"doc\": \"lost\"\x7d, \"Row\": null\x7d\x7d"

def twiceOctets : List UInt8 :=
  twiceText.toList.map fun char => UInt8.ofNat char.toNat

def twiceDocument : Value :=
  .dict [(.text "records",
    .dict [(.text "Row", .dict [(.text "doc", .str "lost")]), (.text "Row", .null)])]

def twiceTree : FileTree :=
  ⟨[], [], [(["twice.json"], .file twiceOctets)]⟩

def twicePath : Path :=
  ⟨"", ["twice.json"]⟩

theorem isSchemaFile_twice : IsSchemaFile twiceTree twicePath twicePath .json twiceOctets where
  expand_eq := rfl
  node_eq := rfl
  suffix_mem := by
    have hsuffix : twicePath.suffix = ".json" := by decide
    exact hsuffix ▸ lowercase_json_mem

theorem decodeUtf8_twiceOctets : decodeUtf8 twiceOctets = .ok twiceText.toList := by cbv

theorem verbatim_twiceText :
    Json.verbatim (String.ofList (normaliseNewlines twiceText.toList)) = .ok twiceDocument := by cbv

theorem holdsVerbatim_twiceOctets : HoldsVerbatim twiceOctets twiceDocument :=
  ⟨twiceText.toList, decodeUtf8_twiceOctets, verbatim_twiceText⟩

theorem isDocument_merged_twiceDocument : Schema.IsDocument twiceDocument.merged := by
  refine ⟨[(.text "Row", .null)], .records rfl, ?_⟩
  rw [List.forall_mem_singleton]
  exact .entry (by decide) .null

theorem not_nodup_declared_twiceDocument :
    ¬ ((Schema.declared twiceDocument).map Prod.fst).Nodup := by
  have hnames : (Schema.declared twiceDocument).map Prod.fst = [.text "Row", .text "Row"] := rfl
  rw [hnames]
  decide

/-- The registry of that file has one row, which is the one without a doc. -/
theorem twice_keeps_row_without_doc :
    IsSchemaFile twiceTree twicePath twicePath .json twiceOctets ∧
      HoldsVerbatim twiceOctets twiceDocument ∧
      ∃ loaded, loadRegistry twiceTree [] twicePath = .ok loaded ∧
        loaded.registry.typeNames.map Key.text = [.text "Row"] ∧
        loaded.registry.size ≠ (Schema.declared twiceDocument).length := by
  obtain ⟨-, hiff, hloaded⟩ :=
    loadRegistry_keeps_last_declarations isSchemaFile_twice holdsVerbatim_twiceOctets
  obtain ⟨loaded, hload⟩ := hiff.mpr isDocument_merged_twiceDocument
  obtain ⟨hnames, -, hsize⟩ := hloaded loaded hload
  exact ⟨isSchemaFile_twice, holdsVerbatim_twiceOctets, loaded, hload, hnames.trans (by decide),
    mt hsize.mp not_nodup_declared_twiceDocument⟩

/-- A schema file that declares a name twice, and yet is loaded, with fewer records than it
declares. -/
theorem twice_loads_without_refusal :
    IsSchemaFile twiceTree twicePath twicePath .json twiceOctets ∧
      HoldsVerbatim twiceOctets twiceDocument ∧
      ¬ ((Schema.declared twiceDocument).map Prod.fst).Nodup ∧
      ∃ loaded, loadRegistry twiceTree [] twicePath = .ok loaded ∧
        loaded.registry.size < (Schema.declared twiceDocument).length := by
  refine ⟨isSchemaFile_twice, holdsVerbatim_twiceOctets, not_nodup_declared_twiceDocument, ?_⟩
  obtain ⟨chars, hdecode, hread⟩ := holdsVerbatim_twiceOctets.exists_read
  rcases isSchemaFile_twice.loadRegistry_of_read hdecode hread with
    ⟨-, entries, records, registry, messages, hoffers, hrecords, hregistry, hload⟩ | ⟨hrefused, -⟩
  · refine ⟨_, hload, ?_⟩
    obtain rfl : entries = [(.text "Row", .null)] := hoffers.unique (.records rfl)
    cases hrecords
    rw [Registry.size, Registry.ofRecords_eq_ok hregistry]
    exact Nat.one_lt_two
  · exact absurd isDocument_merged_twiceDocument hrefused

end RecordDocs
