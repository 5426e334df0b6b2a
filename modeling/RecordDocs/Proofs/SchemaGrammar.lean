import RecordDocs.Proofs.JsonValues
import RecordDocs.Proofs.WrittenDocuments

/-!
# The grammar of schema documents

Which values are schema documents is said here without the reader: what a doc, a type, a field, a
field list, a record and a document may be. The reader then decides the grammar. It gives records
exactly for a schema document, one for each member in order and in each a field for every entry; for
any other value it gives a fault, which is that of the first record that breaks the grammar.

The reader has one more way to fail, an integer that is too long to be written as a type. No JSON
text holds such an integer, so that for what is read from a JSON text the two outcomes are all there
are.
-/

namespace RecordDocs.Schema

open Json Number Text

/-! ### The grammar -/

inductive IsDoc : Option Value → Prop
  | missing : IsDoc none
  | null : IsDoc (some .null)
  | text (text : String) : IsDoc (some (.str text))
  | lines (docLines : List String) : IsDoc (some (.list (docLines.map .str)))

/-- A type is a text or a number; a truth value is no number. -/
inductive IsType : Option Value → Prop
  | text (text : String) : IsType (some (.str text))
  | int (number : Int) : IsType (some (.int number))
  | float (number : Binary64) : IsType (some (.float number))

inductive IsField (name : String) : Value → Prop
  | dict {members : List (Key × Value)} (hname : lookup? "name" members = some (.str name))
      (hne : name ≠ "") (htype : IsType (lookup? "type" members))
      (hdoc : IsDoc (lookup? "doc" members)) : IsField name (.dict members)

/-- A field list is missing or null, or its entries declare fields with distinct names. -/
inductive IsFieldList : Option Value → Prop
  | missing : IsFieldList none
  | null : IsFieldList (some .null)
  | entries {entries : List Value} {names : List String}
      (hfields : List.Forall₂ IsField names entries) (hnodup : names.Nodup) :
      IsFieldList (some (.list entries))

inductive IsBody : Value → Prop
  | null : IsBody .null
  | dict {members : List (Key × Value)} (hfields : IsFieldList (lookup? "fields" members))
      (hdoc : IsDoc (lookup? "doc" members)) : IsBody (.dict members)

inductive IsRecord : Key × Value → Prop
  | entry {name : String} {body : Value} (hname : allBlank name = false) (hbody : IsBody body) :
      IsRecord (.text name, body)

/-- The records that a document offers, none if they are missing or null. -/
inductive Offers : Value → List (Key × Value) → Prop
  | null : Offers .null []
  | missing {members : List (Key × Value)} (h : lookup? "records" members = none) :
      Offers (.dict members) []
  | nullRecords {members : List (Key × Value)} (h : lookup? "records" members = some .null) :
      Offers (.dict members) []
  | records {members entries : List (Key × Value)}
      (h : lookup? "records" members = some (.dict entries)) : Offers (.dict members) entries

def IsDocument (value : Value) : Prop :=
  ∃ entries, Offers value entries ∧ ∀ entry ∈ entries, IsRecord entry

/-! ### Deciding -/

/-- An outcome that decides a property: a value of which something is said if the property holds,
and a fault of the document if it does not. -/
inductive Decides {α : Type} (accepted : Prop) (said : α → Prop) : Except ReadError α → Prop
  | gives {value : α} (haccepted : accepted) (hsaid : said value) :
      Decides accepted said (.ok value)
  | refuses {fault : Fault} (hrefused : ¬ accepted) : Decides accepted said (.error (.fault fault))

namespace Decides

variable {α β : Type} {accepted other : Prop} {said : α → Prop} {outcome : Except ReadError α}

theorem exists_ok_iff (h : Decides accepted said outcome) :
    (∃ value, outcome = .ok value) ↔ accepted := by
  cases h with
  | gives haccepted _ => exact ⟨fun _ => haccepted, fun _ => ⟨_, rfl⟩⟩
  | refuses hrefused => exact iff_of_false not_exists_error_eq_ok hrefused

theorem said_of_ok {value : α} (h : Decides accepted said outcome) (hok : outcome = .ok value) :
    said value := by
  cases h with
  | gives _ hsaid =>
      cases hok
      exact hsaid
  | refuses _ => cases hok

theorem exists_fault {cause : ReadError} (h : Decides accepted said outcome)
    (herror : outcome = .error cause) : ∃ fault, cause = .fault fault ∧ ¬ accepted := by
  cases h with
  | gives _ _ => cases herror
  | refuses hrefused =>
      cases herror
      exact ⟨_, rfl, hrefused⟩

theorem congr (h : Decides accepted said outcome) (hiff : accepted ↔ other) :
    Decides other said outcome := by
  cases h with
  | gives haccepted hsaid => exact .gives (hiff.mp haccepted) hsaid
  | refuses hrefused => exact .refuses fun hother => hrefused (hiff.mpr hother)

theorem imp {saidOther : α → Prop} (h : Decides accepted said outcome)
    (himp : ∀ value, said value → saidOther value) : Decides accepted saidOther outcome := by
  cases h with
  | gives haccepted hsaid => exact .gives haccepted (himp _ hsaid)
  | refuses hrefused => exact .refuses hrefused

theorem map {next : α → β} {saidNext : β → Prop} (h : Decides accepted said outcome)
    (hnext : ∀ value, said value → saidNext (next value)) :
    Decides accepted saidNext (outcome.map next) := by
  cases h with
  | gives haccepted hsaid => exact .gives haccepted (hnext _ hsaid)
  | refuses hrefused => exact .refuses hrefused

end Decides

/-! ### Fields -/

theorem allTexts?_eq_some_iff {items : List Value} {texts : List String} :
    allTexts? items = some texts ↔ items = texts.map .str := by
  constructor
  · intro h
    fun_induction allTexts? items generalizing texts with
    | case1 =>
        cases h
        rfl
    | case2 text rest ih =>
        obtain ⟨others, hothers, rfl⟩ := Option.map_eq_some_iff.mp h
        rw [ih hothers]
        rfl
    | case3 => cases h
  · rintro rfl
    exact allTexts?_map_str texts

theorem exists_readDoc_list_iff (owner : Owner) (items : List Value) :
    (∃ docLines, readDoc owner (some (.list items)) = .ok docLines)
      ↔ IsDoc (some (.list items)) := by
  rw [readDoc]
  constructor
  · intro h
    split at h
    · rename_i docLines htexts
      rw [allTexts?_eq_some_iff.mp htexts]
      exact .lines docLines
    · exact absurd h not_exists_error_eq_ok
  · intro h
    cases h with
    | lines docLines =>
        rw [allTexts?_map_str]
        exact ⟨docLines, rfl⟩

theorem exists_readDoc_iff (owner : Owner) (members : List (Key × Value)) :
    (∃ docLines, readDoc owner (member? "doc" members) = .ok docLines)
      ↔ IsDoc (lookup? "doc" members) := by
  rw [member?]
  generalize lookup? "doc" members = found
  cases found with
  | none => exact ⟨fun _ => .missing, fun _ => ⟨[], rfl⟩⟩
  | some value =>
      cases value with
      | null => exact ⟨fun _ => .null, fun _ => ⟨[], rfl⟩⟩
      | str text => exact ⟨fun _ => .text text, fun _ => ⟨_, rfl⟩⟩
      | list items => exact exists_readDoc_list_iff owner items
      | _ => exact iff_of_false not_exists_error_eq_ok (by rintro ⟨⟩)

theorem readType_decides (record field : String) {found : Option Value}
    (hjson : ∀ value ∈ found, IsJson value) :
    Decides (IsType found) (fun _ => True) (readType record field found) := by
  cases found with
  | none => exact .refuses (by rintro ⟨⟩)
  | some value =>
      cases value with
      | str text => exact .gives (.text text) trivial
      | float number => exact .gives (.float number) trivial
      | int number =>
          cases hjson _ rfl with
          | int hwritable =>
              rw [readType, if_pos hwritable]
              exact .gives (.int number) trivial
      | _ => exact .refuses (by rintro ⟨⟩)

variable {record name : String} {members : List (Key × Value)}

theorem readFieldBody_decides (record : String) (hname : name ≠ "")
    (hjson : IsJson (.dict members)) :
    Decides (IsType (lookup? "type" members) ∧ IsDoc (lookup? "doc" members))
      (fun field => field.name = name) (readFieldBody record name hname members) := by
  have htype := readType_decides record name (hjson.of_lookup? "type")
  rw [readFieldBody]
  generalize readType record name (lookup? "type" members) = outcome at htype ⊢
  cases htype with
  | refuses hrefused => exact .refuses fun h => hrefused h.1
  | gives haccepted _ =>
      have hdoc := exists_readDoc_iff (.field name) members
      dsimp only
      split
      · rename_i fault hfault
        rw [hfault] at hdoc
        exact .refuses fun h => not_exists_error_eq_ok (hdoc.mpr h.2)
      · rename_i docLines hlines
        exact .gives ⟨haccepted, hdoc.mp ⟨docLines, hlines⟩⟩ rfl

theorem IsField.eq_of_lookup? {members : List (Key × Value)} {value : Value}
    (h : IsField name (.dict members)) (hlookup : lookup? "name" members = some value) :
    value = .str name := by
  cases h with
  | dict hname _ _ _ =>
      rw [hname] at hlookup
      exact (Option.some.inj hlookup).symm

theorem IsField.name_unique {entry : Value} {other : String} (h : IsField name entry)
    (hother : IsField other entry) : name = other := by
  cases h with
  | dict hname _ _ _ => exact Value.str.inj (hother.eq_of_lookup? hname)

theorem readField_decides (record : String) (position : Nat) (seen : List String) {entry : Value}
    (hjson : IsJson entry) :
    Decides (∃ name, IsField name entry ∧ name ∉ seen) (fun field => IsField field.name entry)
      (readField record position seen entry) := by
  unfold readField
  split
  · rename_i members
    split
    · rename_i name hname
      split
      · rename_i hempty
        refine .refuses ?_
        rintro ⟨other, hfield, -⟩
        cases hfield.eq_of_lookup? hname
        cases hfield with
        | dict _ hne _ _ => exact hne hempty
      · split
        · rename_i hne hseen
          refine .refuses ?_
          rintro ⟨other, hfield, hnew⟩
          cases hfield.eq_of_lookup? hname
          exact hnew hseen
        · rename_i hne hseen
          have hbody := readFieldBody_decides record hne hjson
          generalize readFieldBody record name hne members = outcome at hbody ⊢
          cases hbody with
          | gives haccepted hsaid =>
              have hfield : IsField name (.dict members) :=
                .dict hname hne haccepted.1 haccepted.2
              exact .gives ⟨name, hfield, hseen⟩ (hsaid ▸ hfield)
          | refuses hrefused =>
              refine .refuses ?_
              rintro ⟨other, hfield, -⟩
              cases hfield with
              | dict _ _ htype hdoc => exact hrefused ⟨htype, hdoc⟩
    · rename_i hname
      refine .refuses ?_
      rintro ⟨other, hfield, -⟩
      cases hfield with
      | dict hother _ _ _ => exact hname other hother
  · rename_i hdict
    refine .refuses ?_
    rintro ⟨other, hfield, -⟩
    cases hfield with
    | dict _ _ _ _ => exact hdict _ rfl

theorem readFields_decides (record : String) (position : Nat) (seen : List String)
    {entries : List Value} (hjson : ∀ entry ∈ entries, IsJson entry) :
    Decides
      (∃ names, List.Forall₂ IsField names entries ∧ names.Nodup ∧ ∀ name ∈ names, name ∉ seen)
      (fun fields => List.Forall₂ (fun field entry => IsField field.name entry) fields entries)
      (readFields record position seen entries) := by
  induction entries generalizing position seen with
  | nil => exact .gives ⟨[], .nil, List.nodup_nil, by simp⟩ .nil
  | cons entry rest ih =>
      rw [List.forall_mem_cons] at hjson
      have hfirst := readField_decides record position seen hjson.1
      rw [readFields]
      generalize readField record position seen entry = outcome at hfirst ⊢
      cases hfirst with
      | refuses hrefused =>
          refine .refuses ?_
          rintro ⟨names, hfields, -, hnew⟩
          cases hfields with
          | cons hfield _ => exact hrefused ⟨_, hfield, hnew _ List.mem_cons_self⟩
      | gives haccepted hsaid =>
          rename_i field
          refine ((ih (position + 1) (field.name :: seen) hjson.2).congr ?_).map
            fun fields hfields => .cons hsaid hfields
          obtain ⟨name, hname, hnew⟩ := haccepted
          obtain rfl := hname.name_unique hsaid
          constructor
          · rintro ⟨names, hfields, hnodup, hnames⟩
            have hfresh : field.name ∉ names := fun hmem => hnames _ hmem List.mem_cons_self
            have hnodupCons := List.nodup_cons.mpr ⟨hfresh, hnodup⟩
            refine ⟨field.name :: names, .cons hsaid hfields, hnodupCons, ?_⟩
            rw [List.forall_mem_cons]
            exact ⟨hnew, fun name hmem hseen => hnames name hmem (List.mem_cons_of_mem _ hseen)⟩
          · rintro ⟨names, hfields, hnodup, hnames⟩
            cases hfields with
            | cons hfield hrest =>
                obtain rfl := hfield.name_unique hsaid
                rw [List.nodup_cons] at hnodup
                rw [List.forall_mem_cons] at hnames
                refine ⟨_, hrest, hnodup.2, fun name hmem => ?_⟩
                rw [List.mem_cons, not_or]
                exact ⟨fun heq => hnodup.1 (heq ▸ hmem), hnames.2 name hmem⟩

/-! ### Records -/

def fieldEntries : Value → List Value
  | .dict members =>
      match lookup? "fields" members with
      | some (.list entries) => entries
      | _ => []
  | _ => []

def DeclareFields (entries : List Value) (fields : List FieldDefinition) : Prop :=
  List.Forall₂ (fun field entry => IsField field.name entry) fields entries

theorem readFieldList_decides (record : String) (hjson : IsJson (.dict members)) :
    Decides (IsFieldList (lookup? "fields" members)) (DeclareFields (fieldEntries (.dict members)))
      (readFieldList record (member? "fields" members)) := by
  have hlist := hjson.of_lookup? "fields"
  rw [member?, fieldEntries]
  generalize lookup? "fields" members = found at hlist ⊢
  cases found with
  | none => exact .gives .missing .nil
  | some value =>
      cases value with
      | null => exact .gives .null .nil
      | list entries =>
          refine (readFields_decides record 1 [] (hlist _ rfl).of_mem_items).congr ?_
          constructor
          · rintro ⟨names, hfields, hnodup, -⟩
            exact .entries hfields hnodup
          · intro h
            cases h with
            | entries hfields hnodup => exact ⟨_, hfields, hnodup, by simp⟩
      | _ => exact .refuses (by rintro ⟨⟩)

theorem readBody_decides (hname : allBlank name = false) {body : Value} (hjson : IsJson body) :
    Decides (IsBody body)
      (fun made => made.typeName = name ∧ DeclareFields (fieldEntries body) made.fields)
      (readBody name hname body) := by
  cases body with
  | null => exact .gives .null ⟨rfl, .nil⟩
  | dict members =>
      have hfields := readFieldList_decides name hjson
      rw [readBody]
      generalize readFieldList name (member? "fields" members) = outcome at hfields ⊢
      cases hfields with
      | refuses hrefused =>
          refine .refuses fun h => ?_
          cases h with
          | dict hlist _ => exact hrefused hlist
      | gives haccepted hsaid =>
          have hdoc := exists_readDoc_iff (.record name) members
          dsimp only
          split
          · rename_i fault hfault
            refine .refuses fun h => ?_
            cases h with
            | dict _ hisdoc =>
                rw [hfault] at hdoc
                exact not_exists_error_eq_ok (hdoc.mpr hisdoc)
          · rename_i docLines hlines
            exact .gives (.dict haccepted (hdoc.mp ⟨docLines, hlines⟩)) ⟨rfl, hsaid⟩
  | _ => exact .refuses (by rintro ⟨⟩)

/-- The entry under a name declares the record of that name, with a field for each entry of its
field list. -/
structure Declares (entry : Key × Value) (record : RecordDefinition) : Prop where
  key_eq : entry.1 = .text record.typeName
  fields : DeclareFields (fieldEntries entry.2) record.fields

theorem readRecord_decides {entry : Key × Value} (hjson : IsJson entry.2) :
    Decides (IsRecord entry) (Declares entry) (readRecord entry) := by
  obtain ⟨key, body⟩ := entry
  cases key with
  | other label => exact .refuses (by rintro ⟨⟩)
  | text name =>
      rw [readRecord]
      split
      · rename_i hname
        have hbody := readBody_decides hname hjson
        generalize readBody name hname body = outcome at hbody ⊢
        cases hbody with
        | gives haccepted hsaid =>
            exact .gives (.entry hname haccepted) ⟨congrArg Key.text hsaid.1.symm, hsaid.2⟩
        | refuses hrefused =>
            refine .refuses fun h => ?_
            cases h with
            | entry _ hisbody => exact hrefused hisbody
      · rename_i hblank
        refine .refuses fun h => ?_
        cases h with
        | entry hname _ => exact hblank hname

theorem readRecords_decides {entries : List (Key × Value)}
    (hjson : ∀ entry ∈ entries, IsJson entry.2) :
    Decides (∀ entry ∈ entries, IsRecord entry) (List.Forall₂ Declares entries)
      (readRecords entries) := by
  induction entries with
  | nil => exact .gives (List.forall_mem_nil _) .nil
  | cons entry rest ih =>
      rw [List.forall_mem_cons] at hjson
      have hfirst := readRecord_decides hjson.1
      rw [readRecords]
      generalize readRecord entry = outcome at hfirst ⊢
      cases hfirst with
      | refuses hrefused => exact .refuses fun h => hrefused (h entry List.mem_cons_self)
      | gives haccepted hsaid =>
          refine ((ih hjson.2).congr ?_).map fun records hrecords => .cons hsaid hrecords
          rw [List.forall_mem_cons]
          exact (and_iff_right haccepted).symm

/-- The first record that breaks the grammar decides the fault, whatever comes behind it. -/
theorem exists_first_refused {entries : List (Key × Value)} {fault : Fault}
    (hjson : ∀ entry ∈ entries, IsJson entry.2)
    (h : readRecords entries = .error (.fault fault)) :
    ∃ before entry after, entries = before ++ entry :: after ∧
      (∀ earlier ∈ before, IsRecord earlier) ∧ ¬ IsRecord entry ∧
      readRecord entry = .error (.fault fault) := by
  induction entries with
  | nil => cases h
  | cons entry rest ih =>
      rw [List.forall_mem_cons] at hjson
      have hfirst := readRecord_decides hjson.1
      rw [readRecords] at h
      cases hentry : readRecord entry with
      | error cause =>
          rw [hentry] at h hfirst
          cases h
          cases hfirst with
          | refuses hrefused =>
              exact ⟨[], entry, rest, rfl, List.forall_mem_nil _, hrefused, hentry⟩
      | ok record =>
          rw [hentry] at h hfirst
          cases hrest : readRecords rest with
          | ok records =>
              rw [hrest] at h
              cases h
          | error cause =>
              rw [hrest] at h
              cases h
              obtain ⟨before, refused, after, rfl, hbefore, hrefused, hread⟩ := ih hjson.2 hrest
              refine ⟨entry :: before, refused, after, rfl, ?_, hrefused, hread⟩
              exact List.forall_mem_cons.mpr ⟨hfirst.exists_ok_iff.mp ⟨record, rfl⟩, hbefore⟩

/-! ### Documents -/

variable {value : Value} {entries : List (Key × Value)}

theorem Offers.readDocument_eq (h : Offers value entries) :
    readDocument value = readRecords entries := by
  cases h with
  | null => rfl
  | missing h => rw [readDocument, member?, h]; rfl
  | nullRecords h => rw [readDocument, member?, h]; rfl
  | records h => rw [readDocument, member?, h]

theorem Offers.isJson (h : Offers value entries) (hjson : IsJson value) :
    IsJson (.dict entries) := by
  cases h with
  | records h => exact hjson.of_lookup? "records" _ h
  | _ => exact isJson_dict_nil

theorem Offers.unique {others : List (Key × Value)} (h : Offers value entries)
    (hother : Offers value others) : entries = others := by
  cases h <;> cases hother <;> simp_all

theorem exists_offers_or_fault (value : Value) :
    (∃ entries, Offers value entries) ∨ (∀ entries, ¬ Offers value entries) ∧
      ∃ fault, readDocument value = .error (.fault fault) ∧
        (fault = .rootNotMapping ∨ fault = .recordsNotMapping) := by
  cases value with
  | null => exact .inl ⟨[], .null⟩
  | dict members =>
      cases hrecords : lookup? "records" members with
      | none => exact .inl ⟨[], .missing hrecords⟩
      | some found =>
          cases found with
          | null => exact .inl ⟨[], .nullRecords hrecords⟩
          | dict entries => exact .inl ⟨entries, .records hrecords⟩
          | _ =>
              refine .inr ⟨fun entries hoffers => ?_, .recordsNotMapping, ?_, .inr rfl⟩
              · cases hoffers <;> simp_all
              · rw [readDocument, member?, hrecords]
  | _ => exact .inr ⟨fun _ => by rintro ⟨⟩, .rootNotMapping, rfl, .inl rfl⟩

theorem readDocument_decides (hjson : IsJson value) :
    Decides (IsDocument value)
      (fun records => ∃ entries, Offers value entries ∧ List.Forall₂ Declares entries records)
      (readDocument value) := by
  rcases exists_offers_or_fault value with ⟨entries, hoffers⟩ | ⟨hnone, fault, hfault, -⟩
  · have hrecords := readRecords_decides (hoffers.isJson hjson).of_mem_members
    have hiff : (∀ entry ∈ entries, IsRecord entry) ↔ IsDocument value := by
      constructor
      · exact fun h => ⟨entries, hoffers, h⟩
      · rintro ⟨others, hothers, h⟩
        exact hoffers.unique hothers ▸ h
    rw [hoffers.readDocument_eq]
    exact (hrecords.congr hiff).imp fun records h => ⟨entries, hoffers, h⟩
  · rw [hfault]
    exact .refuses fun ⟨entries, hoffers, _⟩ => hnone entries hoffers

theorem map_typeName_of_declares {records : List RecordDefinition}
    (h : List.Forall₂ Declares entries records) :
    (records.map (·.typeName)).map Key.text = entries.map Prod.fst := by
  induction h with
  | nil => rfl
  | cons hfirst _ ih => rw [List.map_cons, List.map_cons, List.map_cons, ih, hfirst.key_eq]

theorem exists_registry_of_declares {records : List RecordDefinition}
    (hjson : IsJson (.dict entries)) (hdeclares : List.Forall₂ Declares entries records) :
    ∃ registry, Registry.ofRecords records = .ok registry ∧
      registry.typeNames.map .text = entries.map Prod.fst := by
  have hkeys := map_typeName_of_declares hdeclares
  have hnodup : ((records.map (·.typeName)).map Key.text).Nodup := by
    cases hjson with
    | dict _ _ hnodup => exact hkeys ▸ hnodup
  obtain ⟨registry, hregistry, hrecords⟩ :=
    Registry.exists_ofRecords_eq_ok (List.Nodup.of_map _ hnodup)
  exact ⟨registry, hregistry, by rw [Registry.typeNames, hrecords, hkeys]⟩

/-- **Exact acceptance of schema documents.** Of a value that is read from a JSON text, records are
read exactly if it is a schema document, and otherwise there is a fault of the document and nothing
else. The fault is that the value offers no records at all, or it is the fault of the first record
that breaks the grammar, whatever follows it. The records that are read are those that the members
declare, in order and with a field for every entry; defining each again changes nothing, and they
always make up a registry, with the keys of the members as its names. -/
theorem readDocument_accepts_exactly {text : String} {value : Value}
    (hread : Json.read text = .ok value) :
    ((∃ records, readDocument value = .ok records) ↔ IsDocument value) ∧
    (∀ cause, readDocument value = .error cause → ∃ fault, cause = .fault fault ∧
      ((∀ entries, ¬ Offers value entries) ∧
          (fault = .rootNotMapping ∨ fault = .recordsNotMapping) ∨
        ∃ before entry after, Offers value (before ++ entry :: after) ∧
          (∀ earlier ∈ before, IsRecord earlier) ∧ ¬ IsRecord entry ∧
          readRecord entry = .error (.fault fault))) ∧
    ∀ records, readDocument value = .ok records → ∃ entries, Offers value entries ∧
      List.Forall₂ Declares entries records ∧
      (∀ record ∈ records, record.draft.define = .ok record) ∧
      ∃ registry, Registry.ofRecords records = .ok registry ∧
        registry.typeNames.map .text = entries.map Prod.fst := by
  have hjson : IsJson value := .of_read hread
  have hdecides := readDocument_decides hjson
  refine ⟨hdecides.exists_ok_iff, fun cause hcause => ?_, fun records hrecords => ?_⟩
  · obtain ⟨fault, rfl, -⟩ := hdecides.exists_fault hcause
    refine ⟨fault, rfl, ?_⟩
    rcases exists_offers_or_fault value with ⟨entries, hoffers⟩ | ⟨hnone, other, hother, hkind⟩
    · rw [hoffers.readDocument_eq] at hcause
      obtain ⟨before, entry, after, rfl, hbefore, hrefused, hentry⟩ :=
        exists_first_refused (hoffers.isJson hjson).of_mem_members hcause
      exact .inr ⟨before, entry, after, hoffers, hbefore, hrefused, hentry⟩
    · rw [hother] at hcause
      cases hcause
      exact .inl ⟨hnone, hkind⟩
  · obtain ⟨entries, hoffers, hdeclares⟩ := hdecides.said_of_ok hrecords
    exact ⟨entries, hoffers, hdeclares, fun record _ => record.define_draft,
      exists_registry_of_declares (hoffers.isJson hjson) hdeclares⟩

def shelfText : String :=
  "\x7b\"records\": \x7b\"Row\": null, \"Shelf\": \x7b\"fields\": "
    ++ "[\x7b\"name\": \"label\", \"type\": 3\x7d]\x7d\x7d\x7d"

def shelfEntries : List (Key × Value) :=
  [(.text "Row", .null), (.text "Shelf", .dict [(.text "fields",
    .list [.dict [(.text "name", .str "label"), (.text "type", .int 3)]])])]

def blankText : String :=
  "\x7b\"records\": \x7b\"Row\": null, \" \": null, \"Shelf\": 3\x7d\x7d"

def blankEntries : List (Key × Value) :=
  [(.text "Row", .null), (.text " ", .null), (.text "Shelf", .int 3)]

theorem isDocument_shelfEntries : IsDocument (.dict [(.text "records", .dict shelfEntries)]) := by
  refine ⟨shelfEntries, .records rfl, ?_⟩
  rw [shelfEntries, List.forall_mem_cons, List.forall_mem_singleton]
  have hlabel : IsField "label" (.dict [(.text "name", .str "label"), (.text "type", .int 3)]) :=
    .dict rfl (by decide) (.int 3) .missing
  exact ⟨.entry (by decide) .null, .entry (by decide)
    (.dict (.entries (.cons hlabel .nil) (List.nodup_singleton "label")) .missing)⟩

/-- The shelf is read with its number as a type; the blank name is refused before what follows. -/
theorem readDocument_shelfText_blankText :
    (∃ value, Json.read shelfText = .ok value ∧
      ∃ records, readDocument value = .ok records ∧
        ∃ registry, Registry.ofRecords records = .ok registry ∧
          registry.typeNames.map Key.text = [Key.text "Row", Key.text "Shelf"]) ∧
    ∃ value, Json.read blankText = .ok value ∧ ¬ IsDocument value ∧
      readDocument value = .error (.fault .recordName) := by
  constructor
  · have hread : Json.read shelfText = .ok (.dict [(.text "records", .dict shelfEntries)]) := by cbv
    obtain ⟨hiff, -, hsuccess⟩ := readDocument_accepts_exactly hread
    obtain ⟨records, hrecords⟩ := hiff.mpr isDocument_shelfEntries
    obtain ⟨entries, hoffers, -, -, registry, hregistry, hnames⟩ := hsuccess records hrecords
    obtain rfl : entries = shelfEntries := hoffers.unique (.records rfl)
    exact ⟨_, hread, records, hrecords, registry, hregistry, hnames⟩
  · have hread : Json.read blankText = .ok (.dict [(.text "records", .dict blankEntries)]) := by cbv
    have hfault : readDocument (.dict [(.text "records", .dict blankEntries)])
        = .error (.fault .recordName) := by cbv
    obtain ⟨hiff, -, -⟩ := readDocument_accepts_exactly hread
    refine ⟨_, hread, fun hdocument => ?_, hfault⟩
    obtain ⟨records, hrecords⟩ := hiff.mpr hdocument
    rw [hfault] at hrecords
    cases hrecords

end RecordDocs.Schema
