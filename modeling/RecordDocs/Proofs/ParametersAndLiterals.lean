import RecordDocs.Proofs.AnnotationSignatures
import RecordDocs.Proofs.CommaPieces

/-!
# Parameters and literal values in signatures

The parameters of a signature stand in square brackets, and a literal's values as they are quoted;
neither is looked at when arguments are cut. So a signature is cut between its parameters as well:
the first and the last are spoiled by the brackets, and those between them are taken for arguments.
And a text among the values of a literal is cut at its own commas, so that what stands between two
of them is taken for an argument.
-/

namespace RecordDocs

open Annotation Brackets Text

variable {known : String → Bool} {text : String} {char : Char}

/-! ### Parameters in brackets -/

namespace Signature

/-- The pieces of a list in square brackets between its items, behind what stands in front. -/
def openedPieces (front : String) : List String → List String
  | [] => [front ++ "]"]
  | next :: rest => front :: openedPieces next rest

def bracketedPieces : List String → List String
  | [] => ["[]"]
  | first :: rest => openedPieces ("[" ++ first) rest

theorem openedPieces_ne_nil (front : String) (rest : List String) :
    openedPieces front rest ≠ [] := by
  cases rest <;> simp [openedPieces]

theorem bracketedPieces_ne_nil (items : List String) : bracketedPieces items ≠ [] := by
  cases items with
  | nil => simp [bracketedPieces]
  | cons first rest => exact openedPieces_ne_nil _ rest

theorem intercalate_openedPieces (front : String) (rest : List String) :
    ", ".intercalate (openedPieces front rest) = ", ".intercalate (front :: rest) ++ "]" := by
  induction rest generalizing front with
  | nil => simp [openedPieces]
  | cons next rest ih =>
      rw [openedPieces, String.intercalate_cons_of_ne_nil (openedPieces_ne_nil _ _), ih,
        String.intercalate_cons_cons]
      simp only [String.append_assoc]

theorem intercalate_bracketedPieces (items : List String) :
    ", ".intercalate (bracketedPieces items) = TypeForm.bracketed items := by
  cases items with
  | nil => rfl
  | cons first rest =>
      rw [bracketedPieces, intercalate_openedPieces, String.intercalate_cons_append,
        TypeForm.bracketed]

theorem render_bracketed (head last : String) (items : List String) :
    render ⟨head, [TypeForm.bracketed items, last]⟩
      = render ⟨head, bracketedPieces items ++ [last]⟩ := by
  have hjoined : ", ".intercalate [TypeForm.bracketed items, last]
      = ", ".intercalate (bracketedPieces items ++ [last]) := by
    rw [String.intercalate_append_of_ne_nil (bracketedPieces_ne_nil items) (by simp),
      intercalate_bracketedPieces, String.intercalate_cons_cons]
  rw [render, render, hjoined]

theorem IsArgument.trim_eq (h : IsArgument text) : trim text.toList = text.toList := by
  have hstrip := congrArg String.toList h.strip_eq
  rwa [strip, String.toList_ofList] at hstrip

theorem IsArgument.opened (h : IsArgument text) : IsArgument ("[" ++ text) := by
  have hchars : ("[" ++ text).toList = '[' :: text.toList := by simp
  have htrim : trim ("[" ++ text).toList = ("[" ++ text).toList := by
    rw [hchars]
    exact trim_cons_of_trimmed (by decide) h.trim_eq
  have hbracket : angles.IsPiece 0 ['['] := isPiece_of_forall_ne (by simp [angles])
  refine ⟨by rw [strip, htrim, String.ofList_toList], ?_⟩
  rw [hchars]
  exact hbracket.append h.isPiece

theorem IsArgument.closed (h : IsArgument text) : IsArgument (text ++ "]") := by
  have hchars : (text ++ "]").toList = text.toList ++ [']'] := by simp
  have htrim : trim (text ++ "]").toList = (text ++ "]").toList := by
    rw [hchars]
    exact trim_concat_of_trimmed (by decide) h.trim_eq
  have hbracket : angles.IsPiece 0 [']'] := isPiece_of_forall_ne (by simp [angles])
  refine ⟨by rw [strip, htrim, String.ofList_toList], ?_⟩
  rw [hchars]
  exact h.isPiece.append hbracket

theorem isArgument_openedPieces {front : String} {rest : List String} (hfront : IsArgument front)
    (hrest : ∀ item ∈ rest, IsArgument item) :
    ∀ piece ∈ openedPieces front rest, IsArgument piece := by
  induction rest generalizing front with
  | nil =>
      intro piece hpiece
      rw [List.mem_singleton.mp hpiece]
      exact hfront.closed
  | cons next rest ih =>
      rw [List.forall_mem_cons] at hrest
      rw [openedPieces, List.forall_mem_cons]
      exact ⟨hfront, ih hrest.1 hrest.2⟩

theorem isArgument_bracketedPieces {items : List String} (h : ∀ item ∈ items, IsArgument item) :
    ∀ piece ∈ bracketedPieces items, IsArgument piece := by
  cases items with
  | nil =>
      intro piece hpiece
      rw [List.mem_singleton.mp hpiece]
      have hbrackets : angles.IsPiece 0 ['[', ']'] := isPiece_of_forall_ne (by simp [angles])
      exact ⟨by decide, hbrackets⟩
  | cons first rest =>
      rw [List.forall_mem_cons] at h
      exact isArgument_openedPieces h.1.opened h.2

theorem filter_bracketedPieces (hnames : ∀ name, known name = true → IsName name)
    (items : List String) :
    (bracketedPieces items).filter known = items.tail.dropLast.filter known := by
  have hclosed : ∀ front : String, ¬ known (front ++ "]") = true := by
    intro front hknown
    exact (hnames _ hknown).not_mem (show canName ']' = false by decide) (by simp)
  have hopened : ∀ rest front, (openedPieces front rest).filter known
      = (front :: rest).dropLast.filter known := by
    intro rest
    induction rest with
    | nil => intro front; simp [openedPieces, hclosed]
    | cons next rest ih =>
        intro front
        rw [openedPieces, List.filter_cons, ih next, List.dropLast_cons_cons, List.filter_cons]
  cases items with
  | nil => simpa [bracketedPieces] using hclosed "["
  | cons first rest =>
      have hfirst : ¬ known ("[" ++ first) = true := by
        intro hknown
        exact (hnames _ hknown).not_mem (show canName '[' = false by decide) (by simp)
      rw [bracketedPieces, hopened]
      cases rest with
      | nil => rfl
      | cons second rest =>
          rw [List.dropLast_cons_cons, List.filter_cons_of_neg hfirst, List.tail_cons]

end Signature

namespace Annotation.TypeForm

variable {word : GenericName} {parameters : List TypeForm} {result : TypeForm}

theorem itemSignatures_eq_map (items : List TypeForm) :
    itemSignatures items = items.map signature := by
  induction items with
  | nil => rfl
  | cons item rest ih => rw [itemSignatures, ih, List.map_cons]

/-- A form whose signature can be written out and stands as it is among arguments. -/
structure Fits (form : TypeForm) : Prop where
  isWritable : form.isWritable = true
  isArgument : Signature.IsArgument form.signature

theorem IsPlain.fits {form : TypeForm} (h : IsPlain form) : Fits form :=
  ⟨h.isWritable, h.isArgument⟩

/-- What a signature is cut into: its parameters, with the brackets at the first and the last, and
its result. -/
def signaturePieces (parameters : List TypeForm) (result : TypeForm) : List String :=
  Signature.bracketedPieces (parameters.map signature) ++ [result.argumentSignature]

theorem signature_with_parameters (hword : word.arity = .signature)
    (hwhole : areWhole (parameters ++ [result]) = false) :
    (TypeForm.application (.named word) (parameters ++ [result])).signature
      = Signature.render ⟨word.origin, signaturePieces parameters result⟩ := by
  have hparts : (Origin.named word).isSignature = true := by simp [Origin.isSignature, hword]
  rw [signature, hparts, hwhole, itemSignatures_eq_map, argumentSignatures_eq_map]
  simp only [Bool.not_false, Bool.and_true, if_true, headed, grouped, List.map_append,
    List.map_cons, List.map_nil, List.dropLast_concat, List.getLastD_concat, List.isEmpty_cons,
    Bool.false_eq_true, if_false, Origin.name]
  exact Signature.render_bracketed _ _ _

theorem isCompound_signaturePieces (hname : IsName word.origin)
    (hfits : ∀ form ∈ parameters ++ [result], Fits form) :
    Signature.IsCompound ⟨word.origin, signaturePieces parameters result⟩ := by
  refine ⟨hname, by simp [signaturePieces], fun text htext => ?_⟩
  rcases List.mem_append.mp htext with hpiece | hresult
  · refine Signature.isArgument_bracketedPieces (fun item hitem => ?_) text hpiece
    obtain ⟨form, hmem, rfl⟩ := List.mem_map.mp hitem
    exact (hfits form (List.mem_append_left _ hmem)).isArgument
  · rw [List.mem_singleton.mp hresult]
    exact isArgument_argumentSignature fun _ => (hfits result (by simp)).isArgument

theorem fits_with_parameters (hword : word.arity = .signature) (hname : IsName word.origin)
    (hwhole : areWhole (parameters ++ [result]) = false)
    (hfits : ∀ form ∈ parameters ++ [result], Fits form) :
    Fits (.application (.named word) (parameters ++ [result])) := by
  constructor
  · rw [isWritable, areWritable_iff]
    exact fun form hmem => (hfits form hmem).isWritable
  · rw [signature_with_parameters hword hwhole]
    exact (isCompound_signaturePieces hname hfits).isArgument_render

end Annotation.TypeForm

/-! ### Literal values -/

theorem isFence_of_isDigit (h : char.isDigit = true) : IsFence char := by
  have hcodes : ∀ code ∈ List.range' 48 10, Char.ofNat code ≠ ',' ∧
      isBlank (Char.ofNat code) = false ∧ isIdentifierStart (Char.ofNat code) = false := by
    decide +kernel
  have hcode : char.toNat ∈ List.range' 48 10 := by
    simp only [Char.isDigit, Bool.and_eq_true, decide_eq_true_eq, UInt32.le_iff_toNat_le] at h
    rw [List.mem_range'_1]
    exact ⟨h.1, Nat.lt_succ_of_le h.2⟩
  have hchar := hcodes char.toNat hcode
  rw [Char.ofNat_toNat] at hchar
  exact ⟨hchar.1, hchar.2.1, hchar.2.2⟩

theorem isDigit_of_mem_repr {number : Nat} (h : char ∈ number.repr.toList) :
    char.isDigit = true := by
  rw [Nat.repr, String.toList_ofList] at h
  exact Nat.isDigit_of_mem_toDigits (by decide) (by decide) h

theorem exists_toList_toString (value : Int) :
    ∃ first rest, (toString value).toList = first :: rest ∧ IsFence first ∧ ',' ∉ rest := by
  have hcomma : ∀ number : Nat, ',' ∉ number.repr.toList := by
    intro number hmem
    exact absurd (isDigit_of_mem_repr hmem) (by decide)
  cases value with
  | ofNat number =>
      obtain ⟨first, rest, hchars⟩ := List.exists_cons_of_ne_nil
        (show number.repr.toList ≠ [] by
          rw [Nat.repr, String.toList_ofList]
          exact Nat.toDigits_ne_nil)
      refine ⟨first, rest, hchars, ?_, ?_⟩
      · exact isFence_of_isDigit (isDigit_of_mem_repr (hchars ▸ List.mem_cons_self))
      · exact fun hmem => hcomma number (hchars ▸ List.mem_cons_of_mem _ hmem)
  | negSucc number =>
      have hchars : (toString (Int.negSucc number)).toList = '-' :: number.succ.repr.toList := by
        rw [Int.toString_eq_repr, Int.repr]
        simp
      exact ⟨'-', _, hchars, ⟨by decide, by decide, by decide⟩, hcomma _⟩

theorem exists_toList_quoted (text : String) :
    ∃ mark middle, (quoted text).toList = mark :: (middle ++ [mark]) ∧ IsFence mark ∧
      canName mark = false := by
  refine ⟨quotationMark text.toList, _, String.toList_ofList, ?_⟩
  unfold quotationMark
  split
  · exact ⟨⟨by decide, by decide, by decide⟩, by decide⟩
  · exact ⟨⟨by decide, by decide, by decide⟩, by decide⟩

def Annotation.Constant.isTextOrInteger : Constant → Bool
  | .text _ => true
  | .integer _ => true
  | _ => false

theorem isFenced_wording {value : Constant} (h : value.isTextOrInteger = true) :
    IsFenced value.wording := by
  unfold Constant.isTextOrInteger at h
  split at h
  · rename_i text
    obtain ⟨mark, middle, hchars, hmark, hname⟩ := exists_toList_quoted text
    exact ⟨⟨mark, middle ++ [mark], hchars, hmark⟩,
      fun _ => ⟨mark :: middle, mark, hchars, hmark, hname⟩⟩
  · rename_i value
    obtain ⟨first, rest, hchars, hfirst, hcomma⟩ := exists_toList_toString value
    refine ⟨⟨first, rest, hchars, hfirst⟩, fun hmem => ?_⟩
    have hwording : ',' ∈ (toString value).toList := hmem
    rw [hchars, List.mem_cons] at hwording
    rcases hwording with rfl | hrest
    · exact absurd rfl hfirst.ne_comma
    · exact absurd hrest hcomma
  · cases h

/-! ### What is taken for an argument -/

section Literals

variable {wordings : List String} {name : String}

theorem itemWordings_map_constant (values : List Constant) :
    TypeForm.itemWordings (values.map .constant) = values.map Constant.wording := by
  induction values with
  | nil => rfl
  | cons value rest ih => exact congrArg (List.cons value.wording) ih

theorem references_literal_eq (hnames : ∀ name, known name = true → IsName name)
    (wordings : List String) :
    references known (Signature.render ⟨"Literal", wordings⟩)
      = ((if angles.Balanced (", ".intercalate wordings).toList then
          Signature.bodyArguments (", ".intercalate wordings) else []).filter known).eraseDups := by
  have hhead : IsName "Literal" := by decide
  have hwhole : ¬ IsName (strip (Signature.render ⟨"Literal", wordings⟩)) := by
    rw [Signature.render, Signature.strip_enclosed hhead]
    exact Signature.not_isName_render ⟨"Literal", wordings⟩
  rw [references_eq_eraseDups hnames hwhole, Signature.render, Signature.argumentsOf_enclosed hhead]

theorem exists_mem_innerPieces (hnames : ∀ name, known name = true → IsName name)
    (hfenced : ∀ wording ∈ wordings, IsFenced wording)
    (hmem : name ∈ references known (Signature.render ⟨"Literal", wordings⟩)) :
    ∃ wording ∈ wordings, name ∈ innerPieces wording := by
  rw [references_literal_eq hnames, List.mem_eraseDups, List.mem_filter] at hmem
  obtain ⟨hargument, hknown⟩ := hmem
  split at hargument
  · obtain ⟨piece, hpiece, rfl⟩ := List.mem_map.mp hargument
    have hcomma : ',' ∉ piece := by
      intro hmem
      exact absurd (canName_of_isName_strip (hnames _ hknown) hmem (by decide)) (by decide)
    have hinner : strip (String.ofList piece) ∈ (wordings.flatMap innerPieces).filter known := by
      rw [← filter_piecesOf_intercalate hfenced hnames, List.mem_filter]
      exact ⟨List.mem_map.mpr ⟨piece, mem_splitOn_of_mem_cut hpiece hcomma, rfl⟩, hknown⟩
    exact List.mem_flatMap.mp (List.mem_filter.mp hinner).1
  · cases hargument

theorem not_mem_intercalate (hcomma : char ≠ ',') (hblank : char ≠ ' ')
    (h : ∀ wording ∈ wordings, char ∉ wording.toList) :
    char ∉ (", ".intercalate wordings).toList := by
  induction wordings with
  | nil => simp
  | cons first rest ih =>
      rw [List.forall_mem_cons] at h
      cases rest with
      | nil => simpa using h.1
      | cons second others =>
          rw [String.intercalate_cons_cons, String.toList_append, String.toList_append,
            List.mem_append, List.mem_append]
          rintro ((hfirst | hseparator) | hrest)
          · exact h.1 hfirst
          · simp [hcomma, hblank] at hseparator
          · exact ih h.2 hrest

theorem references_literal (hnames : ∀ name, known name = true → IsName name)
    (hfenced : ∀ wording ∈ wordings, IsFenced wording)
    (hopening : ∀ wording ∈ wordings, '<' ∉ wording.toList)
    (hclosing : ∀ wording ∈ wordings, '>' ∉ wording.toList) :
    references known (Signature.render ⟨"Literal", wordings⟩)
      = ((wordings.flatMap innerPieces).filter known).eraseDups := by
  have hopened := not_mem_intercalate (by decide) (by decide) hopening
  have hclosed := not_mem_intercalate (by decide) (by decide) hclosing
  have hbare : ∀ char ∈ (", ".intercalate wordings).toList,
      char ≠ angles.opening ∧ char ≠ angles.closing := by
    intro char hmem
    constructor
    · rintro rfl
      exact hopened hmem
    · rintro rfl
      exact hclosed hmem
  rw [references_literal_eq hnames, if_pos (balanced_of_not_mem hopened hclosed),
    Signature.bodyArguments, cut_eq_splitOn hbare, ← filter_piecesOf_intercalate hfenced hnames]
  rfl

end Literals

namespace Annotation.TypeForm

/-- **What stands between two others is taken for an argument.** Let all registered names be
identifiers. A signature of parameters and a result that stand as they are as arguments refers to
its result and to its parameters, but for the first and the last; so the parameters are one argument
only while there are at most two. A literal of texts and integers refers to nothing but names that
stand between two commas of a value, and to all of these if there are no angle brackets in the
values. -/
theorem inner_parts_are_inlined {table : RecordTable} (hkeys : ∀ key ∈ table.keys, IsName key) :
    (∀ word parameters result, word.arity = .signature → IsName word.origin →
      areWhole (parameters ++ [result]) = false →
      (∀ form ∈ parameters ++ [result], Fits form) →
      ∃ text, (application (.named word) (parameters ++ [result])).signature? = .ok text ∧
        table.references text
          = ((parameters.tail.dropLast.map signature ++ [result.argumentSignature]).filter
              table.contains).eraseDups) ∧
    ∀ values : List Constant, (∀ value ∈ values, value.isTextOrInteger = true) →
      (literal (values.map .constant)).isWritable = true →
      ∃ text, (literal (values.map .constant)).signature? = .ok text ∧
        (∀ name ∈ table.references text, ∃ value ∈ values, name ∈ innerPieces value.wording) ∧
        ((∀ value ∈ values, '<' ∉ value.wording.toList ∧ '>' ∉ value.wording.toList) →
          table.references text
            = ((values.flatMap fun value => innerPieces value.wording).filter
                table.contains).eraseDups) := by
  have hnames : ∀ name, table.contains name = true → IsName name := by
    intro name hknown
    refine hkeys name ?_
    simpa [RecordTable.contains] using hknown
  constructor
  · intro word parameters result hword hname hwhole hfits
    have hform := fits_with_parameters hword hname hwhole hfits
    refine ⟨_, if_pos hform.isWritable, ?_⟩
    rw [signature_with_parameters hword hwhole, RecordTable.references,
      references_render hnames (isCompound_signaturePieces hname hfits).canonical,
      signaturePieces, List.filter_append, Signature.filter_bracketedPieces hnames,
      List.filter_append, List.map_dropLast, List.map_tail]
  · intro values hvalues hwritable
    have hfenced : ∀ wording ∈ values.map Constant.wording, IsFenced wording := by
      intro wording hmem
      obtain ⟨value, hvalue, rfl⟩ := List.mem_map.mp hmem
      exact isFenced_wording (hvalues value hvalue)
    refine ⟨_, if_pos hwritable, fun name hmem => ?_, fun hbare => ?_⟩
    · rw [signature, itemWordings_map_constant] at hmem
      obtain ⟨wording, hwording, hinner⟩ := exists_mem_innerPieces hnames hfenced hmem
      obtain ⟨value, hvalue, rfl⟩ := List.mem_map.mp hwording
      exact ⟨value, hvalue, hinner⟩
    · rw [signature, itemWordings_map_constant, RecordTable.references,
        references_literal hnames hfenced
          (List.forall_mem_map.mpr fun value hvalue => (hbare value hvalue).1)
          (List.forall_mem_map.mpr fun value hvalue => (hbare value hvalue).2),
        List.flatMap_map]

def callable : GenericName :=
  genericName "Callable" "Callable" .signature

def lending : TypeForm :=
  .application (.named callable)
    [libraryClass "Card", libraryClass "Book", .cls (.builtin "int" .plain), .special .any]

def remarks : List Constant :=
  [.text "one, Book, two", .integer 7]

/-- The second of three parameters is referred to, and so is a word of a text. -/
theorem lending_and_remarks_refer_to_books :
    (∀ key ∈ RecordTable.library.keys, IsName key) ∧
      lending.signature? = .ok "Callable<[Card, Book, int], Any>" ∧
      RecordTable.library.references "Callable<[Card, Book, int], Any>" = ["Book"] ∧
      (literal (remarks.map .constant)).signature? = .ok "Literal<'one, Book, two', 7>" ∧
      RecordTable.library.references "Literal<'one, Book, two', 7>" = ["Book"] := by
  have hkeys : ∀ key ∈ RecordTable.library.keys, IsName key := by decide
  obtain ⟨hsignatures, hliterals⟩ := inner_parts_are_inlined hkeys
  have hfits : ∀ form ∈ [libraryClass "Card", libraryClass "Book", .cls (.builtin "int" .plain)]
      ++ [.special .any], Fits form := by
    intro form hmem
    simp only [List.cons_append, List.nil_append, List.mem_cons, List.not_mem_nil, or_false] at hmem
    rcases hmem with rfl | rfl | rfl | rfl
    · exact (IsPlain.cls (show IsName "Card" by decide)).fits
    · exact (IsPlain.cls (show IsName "Book" by decide)).fits
    · exact (IsPlain.cls (show IsName "int" by decide)).fits
    · exact IsPlain.any.fits
  have hlending : lending.signature? = .ok "Callable<[Card, Book, int], Any>" := rfl
  have hremarks : (literal (remarks.map .constant)).signature?
      = .ok "Literal<'one, Book, two', 7>" := by decide +kernel
  obtain ⟨text, htext, hreferences⟩ := hsignatures callable _ _ rfl (by decide) rfl hfits
  obtain rfl := Except.ok.inj (hlending.symm.trans htext)
  obtain ⟨text, htext, -, hpieces⟩ := hliterals remarks (by decide) (by decide +kernel)
  obtain rfl := Except.ok.inj (hremarks.symm.trans htext)
  refine ⟨hkeys, hlending, ?_, hremarks, ?_⟩
  · rw [hreferences]
    decide
  · rw [hpieces (by decide)]
    decide

/-- So a signature can refer to more than its result, and a literal to something. -/
theorem lending_and_remarks_are_inlined :
    ¬ (∀ (table : RecordTable) (parameters : List TypeForm) (result : TypeForm) (text : String),
        (∀ key ∈ table.keys, IsName key) →
        (application (.named callable) (parameters ++ [result])).signature? = .ok text →
        areWhole (parameters ++ [result]) = false →
        ∀ name ∈ table.references text, result.signature? = .ok name) ∧
      ¬ ∀ (table : RecordTable) (values : List Constant) (text : String),
        (∀ key ∈ table.keys, IsName key) → (∀ value ∈ values, value.isTextOrInteger = true) →
        (literal (values.map .constant)).signature? = .ok text → table.references text = [] := by
  constructor
  · intro hclaim
    have hname := hclaim .library
      [libraryClass "Card", libraryClass "Book", .cls (.builtin "int" .plain)] (.special .any)
      "Callable<[Card, Book, int], Any>" (by decide) rfl rfl "Book" (by decide)
    exact absurd hname (by decide)
  · intro hclaim
    have hnone := hclaim .library remarks "Literal<'one, Book, two', 7>" (by decide) (by decide)
      (by decide +kernel)
    exact absurd hnone (by decide)

end Annotation.TypeForm

end RecordDocs
