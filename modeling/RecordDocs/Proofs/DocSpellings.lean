import Mathlib.Data.List.DropRight
import RecordDocs.Proofs.Members
import RecordDocs.Proofs.TextPieces
import RecordDocs.Proofs.WrittenDocuments

/-!
# The spellings of a doc

A schema document holds a doc as a text or as a list of lines. A doc is read apart from all else in
the document, so that what is read from a document with a doc written into it is what is read
without the doc, but for the lines in its place. The lines of a text that joins them are these lines
again, whatever number of line feeds stands behind; so the two spellings cannot be told apart.
-/

namespace RecordDocs

open Text

/-! ### Records with other lines -/

def FieldDefinition.withLines (docLines : List String) (field : FieldDefinition) :
    FieldDefinition :=
  { field with docLines }

def RecordDefinition.withLines (docLines : List String) (record : RecordDefinition) :
    RecordDefinition :=
  { record with docLines }

def RecordDefinition.withFieldLines (index : Nat) (docLines : List String)
    (record : RecordDefinition) : RecordDefinition :=
  { record with fields := record.fields.modify index (·.withLines docLines) }

namespace Schema

variable {doc : Value} {docLines : List String}

/-! ### Docs as texts -/

/-- Lines that can be joined to a text and told apart in it. -/
structure AreTextLines (docLines : List String) : Prop where
  unbroken : ∀ line ∈ docLines, ∀ char ∈ line.toList, isLineBreak char = false
  last_ne_empty : docLines.getLast? ≠ some ""

def docText (docLines : List String) (count : Nat) : String :=
  "\n".intercalate docLines ++ String.ofList (List.replicate count '\n')

theorem dropFinalNewlines_eq_rdropWhile (chars : List Char) :
    dropFinalNewlines chars = chars.rdropWhile (· == '\n') := rfl

theorem dropFinalNewlines_append_replicate (chars : List Char) (count : Nat) :
    dropFinalNewlines (chars ++ List.replicate count '\n') = dropFinalNewlines chars := by
  induction count with
  | zero => rw [List.replicate_zero, List.append_nil]
  | succ count ih =>
      rw [List.replicate_succ', ← List.append_assoc, dropFinalNewlines_eq_rdropWhile,
        List.rdropWhile_concat_pos _ _ _ rfl, ← dropFinalNewlines_eq_rdropWhile, ih]

theorem dropFinalNewlines_eq_self {chars : List Char} (h : chars.getLast? ≠ some '\n') :
    dropFinalNewlines chars = chars := by
  rw [dropFinalNewlines_eq_rdropWhile, List.rdropWhile_eq_self_iff]
  intro hne hlast
  exact h (by rw [List.getLast?_eq_some_getLast hne, beq_iff_eq.mp hlast])

theorem getLast?_intercalate {separator : List Char} {pieces : List (List Char)} {last : List Char}
    (h : pieces.getLast? = some last) (hne : last ≠ []) :
    (separator.intercalate pieces).getLast? = last.getLast? := by
  induction pieces with
  | nil => cases h
  | cons piece others ih =>
      cases others with
      | nil =>
          obtain rfl : piece = last := Option.some.inj h
          rw [List.intercalate_singleton]
      | cons next behind =>
          rw [List.getLast?_cons_cons] at h
          rw [List.intercalate_cons_cons, List.getLast?_append, ih h,
            List.getLast?_eq_some_getLast hne, Option.some_or]

theorem getLast?_intercalate_ne_newline {pieces : List (List Char)}
    (hbreaks : ∀ line ∈ pieces, ∀ char ∈ line, isLineBreak char = false)
    (hlast : ∀ last ∈ pieces.getLast?, last ≠ []) :
    (['\n'].intercalate pieces).getLast? ≠ some '\n' := by
  intro hnewline
  cases hpieces : pieces.getLast? with
  | none =>
      rw [List.getLast?_eq_none_iff.mp hpieces] at hnewline
      cases hnewline
  | some last =>
      rw [getLast?_intercalate hpieces (hlast last hpieces)] at hnewline
      have hplain := hbreaks last (List.mem_of_getLast? hpieces) '\n'
        (List.mem_of_getLast? hnewline)
      cases hplain

theorem readDoc_docText (h : AreTextLines docLines) (count : Nat) (owner : Owner) :
    readDoc owner (some (.str (docText docLines count))) = .ok docLines := by
  have htext : (docText docLines count).toList
      = ['\n'].intercalate (docLines.map String.toList) ++ List.replicate count '\n' := by
    rw [docText, String.toList_append, String.toList_intercalate, String.toList_ofList,
      String.toList_ofList]
  have hbreaks : ∀ line ∈ docLines.map String.toList, ∀ char ∈ line,
      isLineBreak char = false := by
    simpa using h.unbroken
  have hlast : ∀ last ∈ (docLines.map String.toList).getLast?, last ≠ [] := by
    rintro last hmem rfl
    rw [List.getLast?_map, Option.mem_def, Option.map_eq_some_iff] at hmem
    obtain ⟨line, hline, hempty⟩ := hmem
    exact h.last_ne_empty (by rw [hline, String.toList_eq_nil_iff.mp hempty])
  rw [readDoc, htext, dropFinalNewlines_append_replicate,
    dropFinalNewlines_eq_self (getLast?_intercalate_ne_newline hbreaks hlast),
    splitLines_intercalate hbreaks hlast, List.map_map]
  simp [Function.comp_def]

theorem exists_readDoc_text (text : String) : ∃ docLines : List String,
    (∀ line ∈ docLines, ∀ char ∈ line.toList, isLineBreak char = false) ∧
      ∀ owner, readDoc owner (some (.str text)) = .ok docLines := by
  refine ⟨_, ?_, fun owner => rfl⟩
  rw [List.forall_mem_map]
  intro line hline
  rw [String.toList_ofList]
  exact not_isLineBreak_of_mem_splitLines _ line hline

/-! ### Places of docs -/

/-- Where a doc stands in a document: with a record or with a field of a record, counted from
zero. -/
inductive DocPlace where
  | record (index : Nat)
  | field (owner index : Nat)

def withDoc (doc : Value) : Value → Value
  | .null => .dict [(.text "doc", doc)]
  | .dict members => .dict (put (.text "doc") doc members)
  | value => value

def changeUnder (name : String) (change : Value → Value) : Value → Value
  | .dict members => .dict (changeMember name change members)
  | value => value

def changeEntry (index : Nat) (change : Value → Value) : Value → Value
  | .dict members => .dict (members.modify index fun entry => (entry.1, change entry.2))
  | value => value

def changeItem (index : Nat) (change : Value → Value) : Value → Value
  | .list items => .list (items.modify index change)
  | value => value

def withFieldDoc (index : Nat) (doc : Value) : Value → Value :=
  changeUnder "fields" (changeItem index (withDoc doc))

def DocPlace.write (doc : Value) (place : DocPlace) : Value → Value :=
  match place with
  | .record index => changeUnder "records" (changeEntry index (withDoc doc))
  | .field owner index => changeUnder "records" (changeEntry owner (withFieldDoc index doc))

def DocPlace.setLines (docLines : List String) (place : DocPlace)
    (records : List RecordDefinition) : List RecordDefinition :=
  match place with
  | .record index => records.modify index (·.withLines docLines)
  | .field owner index => records.modify owner (·.withFieldLines index docLines)

/-! ### Reading around a doc -/

/-- The value is read as a doc with these lines, whatever it belongs to. -/
def IsDocOf (docLines : List String) (doc : Value) : Prop :=
  ∀ owner, readDoc owner (some doc) = .ok docLines

theorem IsDocOf.ne_null (h : IsDocOf docLines doc) : doc ≠ .null := by
  rintro rfl
  cases h (.record "")

theorem IsDocOf.readDoc_put (h : IsDocOf docLines doc) (owner : Owner)
    (members : List (Key × Value)) :
    readDoc owner (member? "doc" (put (.text "doc") doc members)) = .ok docLines := by
  rw [member?_eq_some (by rw [lookup?_put, if_pos rfl]) h.ne_null, h owner]

theorem readDoc_put_null (owner : Owner) (members : List (Key × Value)) :
    readDoc owner (member? "doc" (put (.text "doc") .null members)) = .ok [] := by
  rw [member?, lookup?_put, if_pos rfl]
  rfl

theorem lookup?_put_doc {name : String} (hname : name ≠ "doc") (doc : Value)
    (members : List (Key × Value)) :
    lookup? name (put (.text "doc") doc members) = lookup? name members := by
  rw [lookup?_put, if_neg hname]

theorem readFieldBody_put (h : IsDocOf docLines doc) (record : String) {name : String}
    (hname : name ≠ "") (members : List (Key × Value)) :
    readFieldBody record name hname (put (.text "doc") doc members)
      = (readFieldBody record name hname (put (.text "doc") .null members)).map
          (·.withLines docLines) := by
  rw [readFieldBody, readFieldBody, lookup?_put_doc (by decide), lookup?_put_doc (by decide),
    h.readDoc_put, readDoc_put_null]
  cases readType record name (lookup? "type" members) <;> rfl

theorem readField_withDoc (h : IsDocOf docLines doc) (record : String) (position : Nat)
    (seen : List String) (entry : Value) :
    readField record position seen (withDoc doc entry)
      = (readField record position seen (withDoc .null entry)).map (·.withLines docLines) := by
  cases entry with
  | dict members =>
      simp only [withDoc, readField]
      rw [lookup?_put_doc (by decide), lookup?_put_doc (by decide)]
      cases lookup? "name" members with
      | none => rfl
      | some value =>
          cases value with
          | str name =>
              dsimp only
              split
              · rfl
              · split
                · rfl
                · exact readFieldBody_put h record _ members
          | _ => rfl
  | _ => rfl

theorem readFields_modify {record : String} {change other : Value → Value}
    {changed : FieldDefinition → FieldDefinition}
    (hname : ∀ field, (changed field).name = field.name)
    (h : ∀ position seen entry, readField record position seen (change entry)
      = (readField record position seen (other entry)).map changed)
    (entries : List Value) (index position : Nat) (seen : List String) :
    readFields record position seen (entries.modify index change)
      = (readFields record position seen (entries.modify index other)).map
          (·.modify index changed) := by
  induction entries generalizing index position seen with
  | nil => simp [readFields, Except.map]
  | cons entry rest ih =>
      cases index with
      | zero =>
          simp only [List.modify_zero_cons, readFields, h]
          cases readField record position seen (other entry) with
          | error cause => rfl
          | ok field =>
              -- the entries behind see the name that they have seen before
              simp only [Except.map, hname]
              cases readFields record (position + 1) (field.name :: seen) rest <;> rfl
      | succ index =>
          simp only [List.modify_succ_cons, readFields]
          cases readField record position seen entry with
          | error cause => rfl
          | ok field =>
              simp only [ih]
              cases readFields record (position + 1) (field.name :: seen) (rest.modify index other)
                <;> rfl

theorem readFieldList_changeMember (h : IsDocOf docLines doc) (record : String) (index : Nat)
    (members : List (Key × Value)) :
    readFieldList record (member? "fields" (changeMember "fields" (changeItem index (withDoc doc))
        members))
      = (readFieldList record (member? "fields" (changeMember "fields"
          (changeItem index (withDoc .null)) members))).map
            (·.modify index (·.withLines docLines)) := by
  rw [member?, member?, lookup?_changeMember, lookup?_changeMember, if_pos rfl, if_pos rfl]
  cases lookup? "fields" members with
  | none => simp [readFieldList, Except.map]
  | some value =>
      cases value with
      | list entries =>
          have hname : ∀ field : FieldDefinition, (field.withLines docLines).name = field.name :=
            fun _ => rfl
          exact readFields_modify hname (readField_withDoc h record) entries index 1 []
      | null => simp [changeItem, readFieldList, Except.map]
      | _ => rfl

/-! ### Records and documents -/

variable {name : String}

theorem readBody_withDoc (h : IsDocOf docLines doc) (hname : allBlank name = false) (body : Value) :
    readBody name hname (withDoc doc body)
      = (readBody name hname (withDoc .null body)).map (·.withLines docLines) := by
  have hdict : ∀ members, readBody name hname (.dict (put (.text "doc") doc members))
      = (readBody name hname (.dict (put (.text "doc") .null members))).map
          (·.withLines docLines) := by
    intro members
    rw [readBody, readBody, member?, lookup?_put_doc (by decide), h.readDoc_put, member?,
      lookup?_put_doc (by decide), readDoc_put_null, ← member?]
    cases readFieldList name (member? "fields" members) <;> rfl
  cases body with
  | null => exact hdict []
  | dict members => exact hdict members
  | _ => rfl

theorem readBody_withFieldDoc (h : IsDocOf docLines doc) (index : Nat)
    (hname : allBlank name = false) (body : Value) :
    readBody name hname (withFieldDoc index doc body)
      = (readBody name hname (withFieldDoc index .null body)).map
          (·.withFieldLines index docLines) := by
  cases body with
  | dict members =>
      have hdoc : ∀ change, member? "doc" (changeMember "fields" change members)
          = member? "doc" members := by
        intro change
        rw [member?, lookup?_changeMember, if_neg (by decide), member?]
      simp only [withFieldDoc, changeUnder, readBody, readFieldList_changeMember h, hdoc]
      generalize readFieldList name _ = outcome
      cases outcome with
      | error cause => rfl
      | ok fields =>
          simp only [Except.map]
          cases readDoc (.record name) (member? "doc" members) <;> rfl
  | null =>
      simp [withFieldDoc, changeUnder, readBody, Except.map, RecordDefinition.withFieldLines]
  | _ => rfl

section Changes

variable {change other : Value → Value} {changed : RecordDefinition → RecordDefinition}
  (h : ∀ (name : String) (hname : allBlank name = false) (body : Value),
    readBody name hname (change body) = (readBody name hname (other body)).map changed)

include h

theorem readRecord_change (entry : Key × Value) :
    readRecord (entry.1, change entry.2)
      = (readRecord (entry.1, other entry.2)).map changed := by
  obtain ⟨key, body⟩ := entry
  cases key with
  | other label => rfl
  | text name =>
      simp only [readRecord]
      split
      · exact h name _ body
      · rfl

theorem readRecords_modify (entries : List (Key × Value)) (index : Nat) :
    readRecords (entries.modify index fun entry => (entry.1, change entry.2))
      = (readRecords (entries.modify index fun entry => (entry.1, other entry.2))).map
          (·.modify index changed) := by
  induction entries generalizing index with
  | nil => simp [readRecords, Except.map]
  | cons entry rest ih =>
      cases index with
      | zero =>
          simp only [List.modify_zero_cons, readRecords, readRecord_change h]
          cases readRecord (entry.1, other entry.2) with
          | error cause => rfl
          | ok record => cases readRecords rest <;> rfl
      | succ index =>
          simp only [List.modify_succ_cons, readRecords, ih]
          cases readRecord entry with
          | error cause => rfl
          | ok record =>
              generalize readRecords (rest.modify index _) = outcome
              cases outcome <;> rfl

/-- What is read from the body of one record is all that a change of it changes. -/
theorem readDocument_changeUnder (index : Nat) (document : Value) :
    readDocument (changeUnder "records" (changeEntry index change) document)
      = (readDocument (changeUnder "records" (changeEntry index other) document)).map
          (·.modify index changed) := by
  cases document with
  | null => simp [changeUnder, readDocument, Except.map]
  | dict members =>
      simp only [changeUnder, readDocument, member?, lookup?_changeMember]
      cases lookup? "records" members with
      | none => simp [Except.map]
      | some value =>
          cases value with
          | dict entries => exact readRecords_modify h entries index
          | null => simp [changeEntry, Except.map]
          | _ => rfl
  | _ => rfl

end Changes

/-- What is read from a document with a doc in it is what is read without the doc, but for the lines
in its place. -/
theorem readDocument_write (h : IsDocOf docLines doc) (place : DocPlace) (document : Value) :
    readDocument (place.write doc document)
      = (readDocument (place.write .null document)).map (place.setLines docLines) := by
  cases place with
  | record index => exact readDocument_changeUnder (fun _ => readBody_withDoc h) index document
  | field owner index =>
      exact readDocument_changeUnder (fun _ => readBody_withFieldDoc h index) owner document

/-- **The two spellings of a doc.** Whatever document a doc is written into, and into whatever place
of it, lines are read the same if they are joined by line feeds, with any number of line feeds
behind, as if they stand in a list: the record or field gets these lines, and all else is as without
the doc. They have to be lines that a text can hold, without breaks and the last not empty. And what
a record or field gets of a doc that is a text, whatever it is, are lines without breaks. -/
theorem doc_spellings_agree :
    (∀ docLines, AreTextLines docLines → ∀ (count : Nat) (place : DocPlace) (document : Value),
      readDocument (place.write (.str (docText docLines count)) document)
          = readDocument (place.write (writeDoc docLines) document) ∧
        readDocument (place.write (writeDoc docLines) document)
          = (readDocument (place.write .null document)).map (place.setLines docLines)) ∧
    ∀ text : String, ∃ docLines : List String,
      (∀ line ∈ docLines, ∀ char ∈ line.toList, isLineBreak char = false) ∧
        ∀ (place : DocPlace) (document : Value), readDocument (place.write (.str text) document)
          = (readDocument (place.write .null document)).map (place.setLines docLines) := by
  refine ⟨fun docLines hlines count place document => ?_, fun text => ?_⟩
  · have hlist := readDocument_write (readDoc_writeDoc · docLines) place document
    refine ⟨?_, hlist⟩
    rw [hlist]
    exact readDocument_write (readDoc_docText hlines count) place document
  · obtain ⟨docLines, hbreaks, hread⟩ := exists_readDoc_text text
    exact ⟨docLines, hbreaks, readDocument_write hread⟩

def bareShelf : Value :=
  .dict [(.text "records", .dict [(.text "Shelf", .dict [(.text "fields",
    .list [.dict [(.text "name", .str "label"), (.text "type", .str "String")]])])])]

/-- The label gets a line for each of the three that are joined, the empty one too, and none for the
line feeds behind. -/
theorem label_doc_spellings :
    AreTextLines ["", "Of\tthe shelf", "in ink"] ∧
      docText ["", "Of\tthe shelf", "in ink"] 2 = "\nOf\tthe shelf\nin ink\n\n" ∧
      ∃ shelf : RecordDefinition,
        shelf.fields.map (·.docLines) = [["", "Of\tthe shelf", "in ink"]] ∧
        readDocument ((DocPlace.field 0 0).write (.str (docText ["", "Of\tthe shelf", "in ink"] 2))
          bareShelf) = .ok [shelf] := by
  have hlines : AreTextLines ["", "Of\tthe shelf", "in ink"] :=
    ⟨by simp [isLineBreak], by decide⟩
  obtain ⟨hagree, hlist⟩ := doc_spellings_agree.1 _ hlines 2 (.field 0 0) bareShelf
  refine ⟨hlines, by decide +kernel, ⟨"Shelf", [⟨"label", "String",
    ["", "Of\tthe shelf", "in ink"], by decide⟩], [], by decide⟩, rfl, ?_⟩
  rw [hagree, hlist]
  rfl

end Schema

end RecordDocs
