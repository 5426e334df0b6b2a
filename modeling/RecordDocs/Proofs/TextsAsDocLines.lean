import RecordDocs.Proofs.ReadTrees
import RecordDocs.Proofs.TextPieces
import RecordDocs.Record

/-!
# Doc lines given as one text

Doc lines may be given as one text. Where a field, a record or a node is defined, the text is cut
into its lines. Where a node is read from a written tree, it is not: the text is gone through
character by character, at the root of the tree as below it, and each character is a line, a line
break too. The two agree only for the empty text and for one character that ends no line, because no
line has a break in it, and without breaks there is one line at most.
-/

namespace RecordDocs

open Text

variable {text : String}

/-! ### Lines and characters -/

namespace Text

/-- What stands character by character as it stands line by line has no break in it. -/
theorem characters_eq_lines_iff :
    characters text = lines text
      ↔ text = "" ∨ (characters text).length = 1 ∧
        ∀ char ∈ text.toList, isLineBreak char = false := by
  rw [characters, lines, List.map_inj_right fun _ _ => String.ofList_injective, List.length_map,
    ← String.toList_eq_nil_iff]
  generalize text.toList = chars
  have hflatten := flatten_units chars
  constructor
  · intro h
    have hbreaks : ∀ char ∈ chars, isLineBreak char = false := by
      rw [h] at hflatten
      rw [← hflatten]
      intro char hmem
      obtain ⟨line, hline, hchar⟩ := List.mem_flatten.mp hmem
      exact not_isLineBreak_of_mem_splitLines chars line hline char hchar
    by_cases hempty : chars = []
    · exact .inl hempty
    · rw [h, splitLines_of_forall hbreaks hempty]
      exact .inr ⟨rfl, hbreaks⟩
  · rintro (rfl | ⟨hlength, hbreaks⟩)
    · rfl
    · obtain ⟨unit, hunit⟩ := List.length_eq_one_iff.mp hlength
      rw [hunit, List.flatten_singleton] at hflatten
      subst hflatten
      have hne : unit ≠ [] := by
        rintro rfl
        cases hunit
      rw [hunit, splitLines_of_forall hbreaks hne]

end Text

/-! ### Definitions -/

theorem definitionLines_text (text : String) :
    definitionLines (some (.str text)) = .ok (lines text) := rfl

theorem FieldDraft.define_text {name : String} (hname : name ≠ "") (signature : Value)
    (text : String) :
    FieldDraft.define ⟨.str name, signature, some (.str text)⟩
      = .ok ⟨name, signature.asText, lines text, hname⟩ := by
  rw [FieldDraft.define]
  simp only [dif_neg hname, definitionLines_text]
  rfl

theorem RecordDraft.define_text {typeName : String} (hname : allBlank typeName = false)
    {drafts : List FieldDraft} {fields : List FieldDefinition}
    (hfields : drafts.mapM FieldDraft.define = .ok fields) (text : String) :
    RecordDraft.define ⟨.str typeName, drafts, some (.str text)⟩
      = .ok ⟨typeName, fields, lines text, hname⟩ := by
  rw [RecordDraft.define]
  simp only [hfields, RecordDefinition.ofValues, dif_pos hname, definitionLines_text]
  rfl

theorem DocNode.make_text {Label : Type} (name signature : Label) (text : String)
    (children : List (DocNode Label)) :
    make name signature (some (.str text)) children
      = .ok (.node name signature (lines text) children) := rfl

/-! ### Written trees -/

namespace DocNode

variable {members : List (Key × Value)} {payload : Value} {tree : DocNode String}
  {address : List Nat}

theorem readLines_text (h : lookup? "doc_lines" members = some (.str text)) :
    readLines members = .ok (characters text) := by
  rw [readLines, h]
  cases htext : text.isEmpty with
  | true =>
      obtain rfl : text = "" := by simpa using htext
      rfl
  | false =>
      simp only [Value.isVoid, htext]
      rfl

theorem exists_docLines_at (hread : ofValue payload = .ok tree)
    (hpart : partAt? payload address = some (.dict members))
    (hlines : lookup? "doc_lines" members = some (.str text)) :
    ∃ doc, tree.at? address = some doc ∧ doc.docLines = characters text := by
  have hat := ofValue_partAt? hread address
  rw [hpart, Option.map_some] at hat
  obtain ⟨doc, hdoc, heq⟩ := Option.map_eq_some_iff.mp hat.symm
  refine ⟨doc, hdoc, ?_⟩
  obtain ⟨others, hothers, hreadLines, -⟩ := exists_members_of_ofValue heq.symm
  cases hothers
  rw [readLines_text hlines] at hreadLines
  exact (Except.ok.inj hreadLines).symm

def leafMembers (name signature : Value) (text : String) : List (Key × Value) :=
  [(.text "name", name), (.text "type_signature", signature), (.text "doc_lines", .str text)]

theorem ofValue_leaf (name signature : Value) (text : String) :
    ofValue (.dict (leafMembers name signature text))
      = .ok (.node name.asText signature.asText (characters text) []) := by
  rw [ofValue_of_readLines_ok rfl (readLines_text rfl)]
  rfl

end DocNode

open DocNode

/-- **Texts given as doc lines are cut into lines, except where trees are read.** A field, a record
and a node that are defined with one text for their doc lines have the lines of the text. A node
that is read has its characters, at whatever address of a tree it is. These are the lines of the
text if and only if it is empty or one character that ends no line. -/
theorem cuts_texts_unless_read (text : String) :
    (∀ name signature, name ≠ "" → ∃ field,
      FieldDraft.define ⟨.str name, signature, some (.str text)⟩ = .ok field ∧
        field.docLines = lines text) ∧
    (∀ typeName drafts fields, allBlank typeName = false →
      drafts.mapM FieldDraft.define = .ok fields → ∃ record,
        RecordDraft.define ⟨.str typeName, drafts, some (.str text)⟩ = .ok record ∧
          record.docLines = lines text) ∧
    (∀ (Label : Type) (name signature : Label) (children : List (DocNode Label)), ∃ doc,
      make name signature (some (.str text)) children = .ok doc ∧ doc.docLines = lines text) ∧
    (∀ name signature, ∃ doc, ofValue (.dict (leafMembers name signature text)) = .ok doc ∧
      doc.docLines = characters text) ∧
    (∀ payload tree address members, ofValue payload = .ok tree →
      partAt? payload address = some (.dict members) →
      lookup? "doc_lines" members = some (.str text) →
        ∃ doc, tree.at? address = some doc ∧ doc.docLines = characters text) ∧
    (characters text = lines text ↔
      text = "" ∨ (characters text).length = 1 ∧
        ∀ char ∈ text.toList, isLineBreak char = false) := by
  refine ⟨fun name signature hname => ?_, fun typeName drafts fields hname hfields => ?_,
    fun Label name signature children => ?_, fun name signature => ?_,
    fun payload tree address members => exists_docLines_at, characters_eq_lines_iff⟩
  · exact ⟨_, FieldDraft.define_text hname signature text, rfl⟩
  · exact ⟨_, RecordDraft.define_text hname hfields text, rfl⟩
  · exact ⟨_, make_text name signature text children, rfl⟩
  · exact ⟨_, ofValue_leaf name signature text, rfl⟩

def folder : Value :=
  .dict [(.text "name", .str "folder"),
    (.text "children", .list [.dict (leafMembers (.str "sheet") (.str "u8") "a\nb")])]

/-- The sheet that is read from the folder has three lines, of one character each. -/
theorem folder_sheet_is_spread :
    ∃ tree doc, ofValue folder = .ok tree ∧ tree.at? [0] = some doc ∧
      doc.docLines = ["a", "\n", "b"] ∧ lines "a\nb" = ["a", "b"] := by
  have hread : ofValue folder
      = .ok (.node "folder" "" [] [.node "sheet" "u8" ["a", "\n", "b"] []]) := by
    rw [folder, ofValue_of_readLines_ok rfl rfl]
    change (ofChildren _).map _ = _
    rw [ofChildren, ofValues, ofValue_leaf]
    simp only [ofValues]
    rfl
  obtain ⟨-, -, -, -, hspread, -⟩ := cuts_texts_unless_read "a\nb"
  obtain ⟨doc, hdoc, hlines⟩ := hspread folder _ [0] _ hread rfl rfl
  exact ⟨_, doc, hread, hdoc, hlines, rfl⟩

/-- So a node with a text of two characters is not read with the one line that the text is. -/
theorem leaf_is_not_cut :
    ¬ ∀ (name signature text : String), ∃ doc,
      ofValue (.dict (leafMembers (.str name) (.str signature) text)) = .ok doc ∧
        doc.docLines = lines text := by
  intro hclaim
  obtain ⟨doc, hdoc, hlines⟩ := hclaim "n" "t" "ab"
  rw [ofValue_leaf] at hdoc
  cases hdoc
  exact absurd hlines (by decide)

end RecordDocs
