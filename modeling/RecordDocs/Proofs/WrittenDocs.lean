import RecordDocs.Proofs.CleanedText
import RecordDocs.Proofs.PlainReadings

/-!
# Docs that are written in a class

The record of a data class has a field for each field of the class, with the lines that its metadata
says. The doc text of the class becomes the lines of the record unless it begins as a construction
of the class does. A text that is made for a class without one begins so; but nothing keeps a
written one from it, and then it is lost. Apart from this no more than blanks are lost of any text.
-/

namespace RecordDocs

open Annotation Text

variable {names locals scope : Scope} {hints : List (String × TypeForm)}

/-! ### Docs of fields -/

/-- The lines that the metadata of a field says: those of a text without its margin, or the text of
each element. -/
inductive DocSays : Option Value → List String → Prop
  | missing : DocSays none []
  | null : DocSays (some .null) []
  | text (text : String) : DocSays (some (.str text)) (lines (cleanMargin text))
  | items (items : List Value) : DocSays (some (.list items)) (items.map (·.asText))
  | keys (members : List (Key × Value)) :
      DocSays (some (.dict members)) (members.map (·.1.asText))
  | octets (octets : List UInt8) :
      DocSays (some (.binary octets)) (octets.map fun octet => toString octet.toNat)

theorem metadataLines_eq_ok_iff {doc : Option Value} {docLines : List String} :
    metadataLines doc = .ok docLines ↔ DocSays doc docLines := by
  constructor
  · intro h
    cases doc with
    | none =>
        cases h
        exact .missing
    | some value => cases value <;> cases h <;> constructor
  · intro h
    cases h <;> rfl

/-! ### Docs of classes -/

def BeginsAsConstruction (className text : String) : Prop :=
  ∃ rest, text = className ++ "(" ++ rest

theorem isGenerated_iff {className text : String} :
    isGenerated className text = true ↔ BeginsAsConstruction className text := by
  rw [isGenerated, List.isPrefixOf_iff_prefix]
  constructor
  · rintro ⟨rest, hrest⟩
    refine ⟨String.ofList rest, ?_⟩
    rw [← String.toList_inj, String.toList_append, String.toList_ofList, hrest]
  · rintro ⟨rest, rfl⟩
    exact ⟨rest.toList, (String.toList_append ..).symm⟩

theorem lines_cleanMargin_ne_nil {text : String} {char : Char} (hmem : char ∈ text.toList)
    (hchar : isBlank char = false) : lines (cleanMargin text) ≠ [] := by
  intro hnil
  have hkept := nonBlanks_lines_cleanMargin text
  rw [hnil] at hkept
  have hlost : char ∈ nonBlanks text.toList := by
    rw [nonBlanks, List.mem_filter]
    exact ⟨hmem, by simp [hchar]⟩
  rw [← hkept] at hlost
  cases hlost

namespace AnnotatedClass

variable {cls : AnnotatedClass} {record : RecordDefinition} {text : String}

theorem docLines_of_beginsAsConstruction (hdoc : cls.docText = some text)
    (h : BeginsAsConstruction cls.name text) : cls.docLines = [] := by
  simp only [docLines, hdoc, isGenerated_iff.mpr h, if_true]

/-- The doc text of a class comes out exactly if it does not begin as a construction does. -/
theorem docLines_eq_iff (hdoc : cls.docText = some text) :
    cls.docLines = lines (cleanMargin text) ↔ ¬ BeginsAsConstruction cls.name text := by
  constructor
  · rintro hlines ⟨rest, hrest⟩
    -- the bracket is on the text, so that it has lines to lose
    rw [docLines_of_beginsAsConstruction hdoc ⟨rest, hrest⟩] at hlines
    have hmem : '(' ∈ text.toList := by simp [hrest]
    exact lines_cleanMargin_ne_nil hmem (by decide) hlines.symm
  · intro h
    rw [← isGenerated_iff] at h
    simp only [docLines, hdoc, h]
    rfl

/-! ### Records -/

theorem defineShowing_of_outcomeFrom {type : TypeForm} {name : String} {member : Attribute}
    {field : FieldDefinition} {memory : Memory}
    (h : (outcomeFrom (do
        let signature ← liftM (type.signature?.mapError ReflectionError.fault)
        let lines ← liftM (metadataLines member.doc)
        liftM ((FieldDraft.define
          ⟨.str name, .str signature, some (.list (lines.map .str))⟩).mapError
            ReflectionError.definition) : Reflecting FieldDefinition) memory).1 = .ok field) :
    defineShowing type name member = .ok field := by
  obtain ⟨signature, _, hsignature, h⟩ := exists_of_outcomeFrom_bind h
  obtain ⟨docLines, _, hlines, h⟩ := exists_of_outcomeFrom_bind h
  have hwritten : type.signature?.mapError ReflectionError.fault = .ok signature := hsignature
  have hmetadata : metadataLines member.doc = .ok docLines := hlines
  rw [defineShowing, hwritten, ok_bind, hmetadata, ok_bind]
  exact h

theorem exists_defineShowing {name : String} {member : Attribute} {field : FieldDefinition}
    {memory : Memory}
    (h : (outcomeFrom (fieldDefinition scope hints name member) memory).1 = .ok field) :
    ∃ type, defineShowing type name member = .ok field := by
  unfold fieldDefinition at h
  cases hlookup : hints.lookup name with
  | none =>
      rw [hlookup] at h
      obtain ⟨type, _, -, h⟩ := exists_of_outcomeFrom_bind h
      exact ⟨type, defineShowing_of_outcomeFrom h⟩
  | some type =>
      rw [hlookup] at h
      exact ⟨type, defineShowing_of_outcomeFrom h⟩

theorem exists_of_record_eq_ok {memory : Memory}
    (h : (outcomeFrom (cls.record names locals) memory).1 = .ok record) :
    ∃ fields, cls.fields? names = some fields ∧
      List.Forall₂ (fun entry field => ∃ type, defineShowing type entry.1 entry.2 = .ok field)
        fields record.fields ∧ record.docLines = cls.docLines := by
  unfold AnnotatedClass.record at h
  cases hfields : cls.fields? names with
  | none =>
      rw [hfields] at h
      cases h
  | some fields =>
      rw [hfields] at h
      obtain ⟨hints, _, -, h⟩ := exists_of_outcomeFrom_bind h
      obtain ⟨definitions, _, hdefinitions, h⟩ := exists_of_outcomeFrom_bind h
      obtain ⟨rfl, -, hlines⟩ := ofValues_eq_ok h
      refine ⟨fields, rfl, ?_, hlines⟩
      exact (forall₂_of_outcomeFrom_mapM hdefinitions).imp fun _ _ hfield =>
        exists_defineShowing hfield.choose_spec

theorem exists_record_iff {kept : Memory → Prop} {reading : TypeForm → Except Fault TypeForm}
    (hread : cls.IsReadBy kept (cls.scopeOf names locals) reading) {memory : Memory}
    (hmemory : kept memory) :
    (∃ record, (outcomeFrom (cls.record names locals) memory).1 = .ok record) ↔
      allBlank cls.name = false ∧ ∃ fields, cls.fields? names = some fields ∧
        ∀ entry ∈ fields, entry.1 ≠ "" ∧
          (cls.shownType reading entry.2.declared).isWritable = true ∧
          ∃ docLines, DocSays entry.2.doc docLines := by
  simp only [(steady_record hread memory hmemory).1, recordReading_eq_ok_iff]
  constructor
  · rintro ⟨record, fields, hfields, hdefinitions, hname, -⟩
    refine ⟨hname ▸ record.typeName_not_blank, fields, hfields, fun entry hmem => ?_⟩
    obtain ⟨field, -, hfield⟩ := exists_mem_of_forall₂ hdefinitions.flip hmem
    obtain ⟨hwritable, hlines, hname, -⟩ := defineShowing_eq_ok_iff.mp hfield
    exact ⟨hname ▸ field.name_ne_empty, hwritable, _, metadataLines_eq_ok_iff.mp hlines⟩
  · rintro ⟨hname, fields, hfields, hall⟩
    have hdefine : ∀ entry ∈ fields, ∃ field,
        defineShowing (cls.shownType reading entry.2.declared) entry.1 entry.2 = .ok field := by
      intro entry hmem
      obtain ⟨hne, hwritable, docLines, hsays⟩ := hall entry hmem
      exact ⟨⟨entry.1, _, docLines, hne⟩, defineShowing_eq_ok_iff.mpr
        ⟨hwritable, metadataLines_eq_ok_iff.mpr hsays, rfl, rfl⟩⟩
    obtain ⟨definitions, hdefinitions⟩ := exists_forall₂ hdefine
    exact ⟨⟨cls.name, definitions, cls.docLines, hname⟩, fields, hfields, hdefinitions, rfl, rfl⟩

/-- **Written docs come out unless they look made.** If a data class has a record, whatever is
remembered, this has a field for each field of the class, in order, by its name and with the lines
that its metadata says: those of a text without its margin, or the text of each element. A class
without a doc text has no lines. One with a doc text has the lines of the text without its margin
exactly if the text does not begin with the name of the class and a bracket; if it does, there are
none, whether it was written or made. In taking away the margin no more than blanks are lost. And a
class whose annotations are read has a record exactly if its fields have names and can be shown. -/
theorem written_docs_unless_beginning_as_construction (cls : AnnotatedClass)
    (names locals : Scope) :
    (∀ memory record, (outcomeFrom (cls.record names locals) memory).1 = .ok record →
      (∃ fields, cls.fields? names = some fields ∧
        List.Forall₂ (fun entry field => field.name = entry.1 ∧ DocSays entry.2.doc field.docLines)
          fields record.fields) ∧
      (cls.docText = none → record.docLines = []) ∧
      ∀ text, cls.docText = some text →
        (record.docLines = lines (cleanMargin text) ↔ ¬ BeginsAsConstruction cls.name text) ∧
        (BeginsAsConstruction cls.name text → record.docLines = [])) ∧
    (∀ text : String,
      nonBlanks ((lines (cleanMargin text)).flatMap String.toList) = nonBlanks text.toList) ∧
    ∀ kept reading, cls.IsReadBy kept (cls.scopeOf names locals) reading →
      ∀ memory, kept memory →
        ((∃ record, (outcomeFrom (cls.record names locals) memory).1 = .ok record) ↔
          allBlank cls.name = false ∧ ∃ fields, cls.fields? names = some fields ∧
            ∀ entry ∈ fields, entry.1 ≠ "" ∧
              (cls.shownType reading entry.2.declared).isWritable = true ∧
              ∃ docLines, DocSays entry.2.doc docLines) := by
  refine ⟨fun memory record hrecord => ?_, nonBlanks_lines_cleanMargin,
    fun kept reading hread memory hmemory => exists_record_iff hread hmemory⟩
  obtain ⟨fields, hfields, hdefinitions, hlines⟩ := exists_of_record_eq_ok hrecord
  have hsays : ∀ (entry : String × Attribute) (field : FieldDefinition),
      (∃ type, defineShowing type entry.1 entry.2 = .ok field) →
        field.name = entry.1 ∧ DocSays entry.2.doc field.docLines := by
    rintro entry field ⟨type, hfield⟩
    obtain ⟨-, hdocLines, hname, -⟩ := defineShowing_eq_ok_iff.mp hfield
    exact ⟨hname, metadataLines_eq_ok_iff.mp hdocLines⟩
  refine ⟨⟨fields, hfields, hdefinitions.imp hsays⟩, fun hdoc => ?_, fun text hdoc => ?_⟩
  · rw [hlines, docLines, hdoc]
  · rw [hlines]
    exact ⟨docLines_eq_iff hdoc, docLines_of_beginsAsConstruction hdoc⟩

/-! ### A crate -/

def crateMembers : List (String × Attribute) :=
  [("lids", ⟨.constant (.text "int"), some (.str "On top.\n    Heavy.\n")⟩),
    ("contents", ⟨.constant (.text "int"), some (.list [.str " In it", .int 3])⟩)]

def crate (docText : String) : AnnotatedClass :=
  ⟨⟨.ofModule "library" "Crate" .plain 1, crateMembers, true, [],
    some (gather [] crateMembers)⟩, some docText, []⟩

theorem crate_isReadBy (docText : String) :
    (crate docText).IsReadBy Memory.IsRight ((crate docText).scopeOf [] [])
      fun _ => .ok (.cls (.builtin "int" .plain)) := by
  have hline : IsLine (crate docText).lineage := .cons rfl .nil
  have hsource : IsSource "int" (.name "int") :=
    ⟨by decide, by decide, by decide, by decide +kernel⟩
  refine ⟨fun entry hmem => ?_, hline.counts⟩
  have hmembers : entry ∈ crateMembers := by simpa [declarations, lineage, crate] using hmem
  simp only [crateMembers, List.mem_cons, List.not_mem_nil, or_false] at hmembers
  rcases hmembers with rfl | rfl
  · exact isRead_text hsource (.name rfl) (.rigid (.cls _)) rfl
  · exact isRead_text hsource (.name rfl) (.rigid (.cls _)) rfl

def crateRecord (docLines : List String) : RecordDefinition :=
  ⟨"Crate", [⟨"lids", "int", ["On top.", "Heavy."], by decide⟩,
    ⟨"contents", "int", [" In it", "3"], by decide⟩], docLines, by decide⟩

theorem crate_fields? (docText : String) : (crate docText).fields? [] = some crateMembers := by
  rfl

/-- A crate with a written text has a record, which has the lines of the text and of its fields. -/
theorem crate_keeps_its_text :
    (crate "A crate (big).\n\n    For books.").IsReadBy Memory.IsRight
        ((crate "A crate (big).\n\n    For books.").scopeOf [] [])
        (fun _ => .ok (.cls (.builtin "int" .plain))) ∧
      ∃ record, (outcomeFrom ((crate "A crate (big).\n\n    For books.").record [] []) []).1
          = .ok record ∧
        record.fields.map (·.docLines) = [["On top.", "Heavy."], [" In it", "3"]] ∧
        record.docLines = ["A crate (big).", "", "For books."] := by
  have hread := crate_isReadBy "A crate (big).\n\n    For books."
  obtain ⟨hkeeps, -, hexists⟩ := written_docs_unless_beginning_as_construction
    (crate "A crate (big).\n\n    For books.") [] []
  have hshown : ∀ entry ∈ crateMembers, entry.1 ≠ "" ∧
      ((crate "A crate (big).\n\n    For books.").shownType
        (fun _ => .ok (.cls (.builtin "int" .plain))) entry.2.declared).isWritable = true ∧
      ∃ docLines, DocSays entry.2.doc docLines := by
    simp only [crateMembers, List.forall_mem_cons]
    exact ⟨⟨by decide, rfl, _, .text _⟩, ⟨by decide, rfl, _, .items _⟩, List.forall_mem_nil _⟩
  obtain ⟨record, hrecord⟩ := (hexists _ _ hread [] Memory.isRight_nil).mpr
    ⟨by decide, crateMembers, crate_fields? _, hshown⟩
  obtain ⟨⟨fields, hfields, hdefinitions⟩, -, htext⟩ := hkeeps [] record hrecord
  obtain rfl := Option.some.inj (hfields.symm.trans (crate_fields? _))
  refine ⟨hread, record, hrecord, ?_, ?_⟩
  · have hlines : List.Forall₂ (fun (entry : String × Attribute) docLines =>
        metadataLines entry.2.doc = .ok docLines) crateMembers
        (record.fields.map (·.docLines)) := by
      rw [List.forall₂_map_right_iff]
      exact hdefinitions.imp fun entry field h => metadataLines_eq_ok_iff.mpr h.2
    have hall := mapM_eq_ok_of_forall₂ hlines
    have hsaid : crateMembers.mapM (fun entry => metadataLines entry.2.doc)
        = .ok [["On top.", "Heavy."], [" In it", "3"]] := by
      decide +kernel
    rw [hsaid] at hall
    exact (Except.ok.inj hall).symm
  · have hplain : ¬ BeginsAsConstruction "Crate" "A crate (big).\n\n    For books." := by
      rw [← isGenerated_iff]
      decide
    rw [(htext _ rfl).1.mpr hplain]
    decide +kernel

/-- But not every text with something on it is kept. -/
theorem crate_loses_its_text :
    ¬ ∀ (cls : AnnotatedClass) (names locals : Scope) (memory : Memory) (record : RecordDefinition)
        (text : String), (outcomeFrom (cls.record names locals) memory).1 = .ok record →
        cls.docText = some text → lines (cleanMargin text) ≠ [] →
        record.docLines = lines (cleanMargin text) := by
  intro hclaim
  have hrecord : (outcomeFrom ((crate "Crate(lids) is shut.").record [] []) []).1
      = .ok (crateRecord []) := by
    decide +kernel
  have hlines : lines (cleanMargin "Crate(lids) is shut.") = ["Crate(lids) is shut."] := by
    decide +kernel
  have hkept := hclaim _ [] [] [] _ _ hrecord rfl (by simp [hlines])
  rw [hlines] at hkept
  cases hkept

end AnnotatedClass

end RecordDocs
