import RecordDocs.Proofs.RegistryRecords
import RecordDocs.Schema.Document

/-!
# Written schema documents

The document that is written for records declares just these records. Its doc lines stand in lists
of texts, which are taken as they are, so that not even an empty line or a line with breaks in it is
changed; its field names are new to their record one by one, because they are distinct.
-/

namespace RecordDocs.Schema

variable {record : RecordDefinition} {records : List RecordDefinition}

theorem allTexts?_map_str (texts : List String) : allTexts? (texts.map .str) = some texts := by
  induction texts with
  | nil => rfl
  | cons text rest ih =>
      rw [List.map_cons, allTexts?, ih]
      rfl

theorem readDoc_writeDoc (owner : Owner) (docLines : List String) :
    readDoc owner (some (writeDoc docLines)) = .ok docLines := by
  rw [writeDoc, readDoc, allTexts?_map_str]

theorem member?_eq_some {name : String} {members : List (Key × Value)} {value : Value}
    (h : lookup? name members = some value) (hnull : value ≠ .null) :
    member? name members = some value := by
  rw [member?, h]
  cases value <;> first | rfl | exact absurd rfl hnull

theorem writeDoc_ne_null (docLines : List String) : writeDoc docLines ≠ .null := by
  intro heq
  cases heq

theorem readField_writeField {field : FieldDefinition} {seen : List String}
    (hnew : field.name ∉ seen) (owner : String) (position : Nat) :
    readField owner position seen (writeField field) = .ok field := by
  have hdoc : member? "doc" [(.text "name", .str field.name), (.text "type", .str field.signature),
      (.text "doc", writeDoc field.docLines)] = some (writeDoc field.docLines) :=
    member?_eq_some (by simp [lookup?]) (writeDoc_ne_null _)
  simp [writeField, readField, readFieldBody, readType, lookup?, field.name_ne_empty, hnew, hdoc,
    readDoc_writeDoc]

theorem readFields_map_writeField {fields : List FieldDefinition} {seen : List String}
    (hnodup : (fields.map (·.name)).Nodup) (hnew : ∀ field ∈ fields, field.name ∉ seen)
    (owner : String) (position : Nat) :
    readFields owner position seen (fields.map writeField) = .ok fields := by
  induction fields generalizing seen position with
  | nil => rfl
  | cons field rest ih =>
      rw [List.map_cons, List.nodup_cons] at hnodup
      have hrest : ∀ other ∈ rest, other.name ∉ field.name :: seen := by
        intro other hother
        rw [List.mem_cons, not_or]
        refine ⟨?_, hnew other (List.mem_cons_of_mem field hother)⟩
        intro heq
        exact hnodup.1 (heq ▸ List.mem_map_of_mem hother)
      rw [List.map_cons, readFields, readField_writeField (hnew field List.mem_cons_self)]
      dsimp only
      rw [ih hnodup.2 hrest]
      rfl

theorem readRecord_writeRecord (h : record.fieldNames.Nodup) :
    readRecord (writeRecord record) = .ok record := by
  have hfields : member? "fields" [(.text "doc", writeDoc record.docLines),
      (.text "fields", .list (record.fields.map writeField))]
        = some (.list (record.fields.map writeField)) :=
    member?_eq_some (by simp [lookup?]) nofun
  have hdoc : member? "doc" [(.text "doc", writeDoc record.docLines),
      (.text "fields", .list (record.fields.map writeField))] = some (writeDoc record.docLines) :=
    member?_eq_some (by simp [lookup?]) (writeDoc_ne_null _)
  have hread : readFields record.typeName 1 [] (record.fields.map writeField)
      = .ok record.fields := readFields_map_writeField h (by simp) record.typeName 1
  simp [writeRecord, readRecord, readBody, record.typeName_not_blank, readFieldList, hfields, hdoc,
    hread, readDoc_writeDoc]

theorem readRecords_map_writeRecord (h : ∀ record ∈ records, record.fieldNames.Nodup) :
    readRecords (records.map writeRecord) = .ok records := by
  induction records with
  | nil => rfl
  | cons record rest ih =>
      rw [List.forall_mem_cons] at h
      rw [List.map_cons, readRecords, readRecord_writeRecord h.1]
      dsimp only
      rw [ih h.2]
      rfl

/-- **Every registry has a schema document.** Records under distinct names, each with distinct field
names, are read from the document that is written for them just as they are: names, order,
signatures and doc lines, and defining them once more changes nothing. A registry holds them in that
order. -/
theorem readDocument_writeDocument {records : List RecordDefinition}
    (hnames : (records.map (·.typeName)).Nodup)
    (hfields : ∀ record ∈ records, record.fieldNames.Nodup) :
    readDocument (writeDocument records) = .ok records ∧
      (∀ record ∈ records, record.draft.define = .ok record) ∧
      ∃ registry, Registry.ofRecords records = .ok registry ∧ registry.records = records := by
  refine ⟨?_, fun record _ => record.define_draft, Registry.exists_ofRecords_eq_ok hnames⟩
  have hrecords : member? "records" [(.text "records", .dict (records.map writeRecord))]
      = some (.dict (records.map writeRecord)) :=
    member?_eq_some (by simp [lookup?]) nofun
  rw [writeDocument, readDocument, hrecords]
  exact readRecords_map_writeRecord hfields

def shelf : RecordDefinition :=
  ⟨" Shelf ", [⟨"label", " Map<Row, u8>", ["", "one\ntwo", "three\r\n"], by decide⟩,
    ⟨"Label", "", [], by decide⟩], [""], by decide⟩

def row : RecordDefinition :=
  ⟨"Row", [⟨"label", "String", [], by decide⟩], ["", ""], by decide⟩

/-- The two records share the name of a field, and the shelf has another in capitals. -/
theorem readDocument_writeDocument_shelf :
    ([shelf, row].map (·.typeName)).Nodup ∧
      (∀ record ∈ [shelf, row], record.fieldNames.Nodup) ∧
      readDocument (writeDocument [shelf, row]) = .ok [shelf, row] ∧
      ∃ registry, Registry.ofRecords [shelf, row] = .ok registry ∧
        registry.typeNames = [" Shelf ", "Row"] := by
  have hnames : ([shelf, row].map (·.typeName)).Nodup := by decide
  have hfields : ∀ record ∈ [shelf, row], record.fieldNames.Nodup := by decide
  obtain ⟨hread, -, registry, hregistry, hrecords⟩ := readDocument_writeDocument hnames hfields
  refine ⟨hnames, hfields, hread, registry, hregistry, ?_⟩
  rw [Registry.typeNames, hrecords]
  rfl

end RecordDocs.Schema
