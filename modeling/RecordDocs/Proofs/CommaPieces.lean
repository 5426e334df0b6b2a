import RecordDocs.Proofs.SignatureArguments

/-!
# Pieces between commas

Texts that are joined with commas and cut again at every comma fall into the pieces of each of them.
If a text starts and ends in a way in which no name does, only those of its pieces can be names that
have a comma of the text itself on both sides.

A signature is cut at fewer commas, as those inside its brackets do not count; but an argument that
is a name has no comma in it, so it is such a piece in any case.
-/

namespace RecordDocs

open Brackets Text

variable {known : String → Bool} {text name : String} {chars front rest : List Char}

/-! ### Cutting at every comma -/

def piecesOf (chars : List Char) : List String :=
  (chars.splitOn ',').map fun piece => strip (String.ofList piece)

def innerPieces (text : String) : List String :=
  (piecesOf text.toList).tail.dropLast

theorem piecesOf_append_comma (front rest : List Char) :
    piecesOf (front ++ ',' :: rest) = piecesOf front ++ piecesOf rest := by
  rw [piecesOf, List.splitOn_eq_splitOnP, List.splitOnP_append_cons front rest (by simp),
    List.map_append]
  rfl

theorem exists_splitOn_eq_cons (chars : List Char) :
    ∃ first others, chars.splitOn ',' = first :: others :=
  List.exists_cons_of_ne_nil (List.splitOn_ne_nil _ _)

theorem splitOn_cons_comma (chars : List Char) :
    (',' :: chars).splitOn ',' = [] :: chars.splitOn ',' := by
  simp [List.splitOn_eq_splitOnP, List.splitOnP_cons_eq_if_modifyHead]

theorem splitOn_cons_of_ne {char : Char} (h : char ≠ ',') (chars : List Char) :
    (char :: chars).splitOn ',' = (chars.splitOn ',').modifyHead (List.cons char) := by
  simp [List.splitOn_eq_splitOnP, List.splitOnP_cons_eq_if_modifyHead, h]

theorem piecesOf_cons_blank (chars : List Char) : piecesOf (' ' :: chars) = piecesOf chars := by
  obtain ⟨first, others, hsplit⟩ := exists_splitOn_eq_cons chars
  have hstrip : strip (String.ofList (' ' :: first)) = strip (String.ofList first) := by
    simp [strip, trim_cons_of_blank (show isBlank ' ' = true by decide)]
  rw [piecesOf, piecesOf, splitOn_cons_of_ne (by decide), hsplit, List.modifyHead_cons,
    List.map_cons, List.map_cons, hstrip]

theorem cut_eq_splitOn {brackets : Brackets}
    (h : ∀ char ∈ chars, char ≠ brackets.opening ∧ char ≠ brackets.closing) :
    brackets.cut 0 chars = chars.splitOn ',' := by
  induction chars with
  | nil => rfl
  | cons char rest ih =>
      rw [List.forall_mem_cons] at h
      obtain ⟨⟨hopening, hclosing⟩, hrest⟩ := h
      rw [cut_cons, weight_other hopening hclosing, Int.add_zero, ih hrest]
      by_cases hcomma : char = ','
      · subst hcomma
        rw [splitOn_cons_comma]
        rfl
      · rw [splitOn_cons_of_ne hcomma]
        simp [isTopComma, hcomma]

/-- The pieces of a bracketed text that hold no commas are among its pieces between all commas; the
first piece stays the first. -/
theorem exists_cut_splitOn (brackets : Brackets) (before : Int) (chars : List Char) :
    ∃ first others initial more, brackets.cut before chars = first :: others ∧
      chars.splitOn ',' = initial :: more ∧ (',' ∉ first → first = initial) ∧
      ∀ piece ∈ others, ',' ∉ piece → piece ∈ more := by
  induction chars generalizing before with
  | nil => exact ⟨[], [], [], [], rfl, rfl, fun _ => rfl, by simp⟩
  | cons char chars ih =>
      obtain ⟨first, others, initial, more, hcut, hsplit, hfirst, hothers⟩ :=
        ih (before + brackets.weight char)
      rw [cut_cons, hcut]
      by_cases hchar : char = ','
      · subst hchar
        rw [splitOn_cons_comma, hsplit]
        cases htop : isTopComma (',', before) with
        | true =>
            refine ⟨[], first :: others, [], initial :: more, rfl, rfl, fun _ => rfl, ?_⟩
            intro piece hpiece hcomma
            rcases List.mem_cons.mp hpiece with rfl | hmem
            · rw [hfirst hcomma]
              exact List.mem_cons_self
            · exact List.mem_cons_of_mem _ (hothers piece hmem hcomma)
        | false =>
            -- the comma stays in the first piece, which is then none without commas
            refine ⟨',' :: first, others, [], initial :: more, rfl, rfl, ?_, ?_⟩
            · intro hcomma
              exact absurd List.mem_cons_self hcomma
            · intro piece hmem hcomma
              exact List.mem_cons_of_mem _ (hothers piece hmem hcomma)
      · have htop : isTopComma (char, before) = false := by simp [isTopComma, hchar]
        rw [splitOn_cons_of_ne hchar, hsplit, htop]
        refine ⟨char :: first, others, char :: initial, more, rfl, rfl, ?_, hothers⟩
        intro hcomma
        rw [hfirst fun hmem => hcomma (List.mem_cons_of_mem _ hmem)]

theorem mem_splitOn_of_mem_cut {brackets : Brackets} {piece : List Char}
    (hmem : piece ∈ brackets.cut 0 chars) (hcomma : ',' ∉ piece) : piece ∈ chars.splitOn ',' := by
  obtain ⟨first, others, initial, more, hcut, hsplit, hfirst, hothers⟩ :=
    exists_cut_splitOn brackets 0 chars
  rw [hcut, List.mem_cons] at hmem
  rw [hsplit]
  rcases hmem with rfl | hmem
  · rw [hfirst hcomma]
    exact List.mem_cons_self
  · exact List.mem_cons_of_mem _ (hothers piece hmem hcomma)

/-! ### Names among the pieces -/

theorem mem_trim {char : Char} (hmem : char ∈ chars) (hblank : isBlank char = false) :
    char ∈ trim chars := by
  obtain ⟨front, back, hfront, hback, hchars⟩ := exists_blanks_append_trim chars
  rw [hchars, List.mem_append, List.mem_append] at hmem
  rcases hmem with (hmem | hmem) | hmem
  · rw [hfront char hmem] at hblank
    cases hblank
  · exact hmem
  · rw [hback char hmem] at hblank
    cases hblank

theorem canName_of_isName_strip {char : Char} (h : IsName (strip (String.ofList chars)))
    (hmem : char ∈ chars) (hblank : isBlank char = false) : canName char = true := by
  refine h.canName_of_mem ?_
  rw [strip, String.toList_ofList, String.toList_ofList]
  exact mem_trim hmem hblank

theorem exists_splitOn_concat {last : Char} (hlast : last ≠ ',') (front : List Char) :
    ∃ pieces piece, (front ++ [last]).splitOn ',' = pieces ++ [piece ++ [last]] := by
  induction front with
  | nil => exact ⟨[], [], splitOn_cons_of_ne hlast []⟩
  | cons char front ih =>
      obtain ⟨pieces, piece, hsplit⟩ := ih
      rw [List.cons_append]
      by_cases hcomma : char = ','
      · subst hcomma
        exact ⟨[] :: pieces, piece, by rw [splitOn_cons_comma, hsplit, List.cons_append]⟩
      · rw [splitOn_cons_of_ne hcomma, hsplit]
        cases pieces with
        | nil => exact ⟨[], char :: piece, rfl⟩
        | cons first others => exact ⟨(char :: first) :: others, piece, rfl⟩

structure IsFence (char : Char) : Prop where
  ne_comma : char ≠ ','
  not_isBlank : isBlank char = false
  not_isIdentifierStart : isIdentifierStart char = false

theorem not_isName_strip_cons {char : Char} (hchar : IsFence char) (chars : List Char) :
    ¬ IsName (strip (String.ofList (char :: chars))) := by
  have htrimStart : trimStart (char :: chars) = char :: chars := by
    refine trimStart_eq_self ?_
    rintro other ⟨⟩
    exact hchar.not_isBlank
  have hprefix : trim (char :: chars) <+: char :: chars := by
    rw [trim, htrimStart]
    exact trimEnd_prefix _
  rcases List.prefix_cons_iff.mp hprefix with hnil | ⟨shorter, htrim, -⟩
  · exact absurd hnil (trim_ne_nil List.mem_cons_self hchar.not_isBlank)
  · intro hname
    rw [IsName, strip, String.toList_ofList, String.toList_ofList, htrim, isIdentifier,
      hchar.not_isIdentifierStart] at hname
    cases hname

/-- A text that begins as no name does and, if there are commas in it, ends as no name does. -/
structure IsFenced (text : String) : Prop where
  begins : ∃ first rest, text.toList = first :: rest ∧ IsFence first
  ends : ',' ∈ text.toList →
    ∃ front last, text.toList = front ++ [last] ∧ IsFence last ∧ canName last = false

theorem IsFenced.exists_piecesOf (h : IsFenced text) :
    ∃ first, ¬ IsName first ∧ (piecesOf text.toList = [first] ∨
      ∃ inner last, ¬ IsName last ∧ piecesOf text.toList = first :: (inner ++ [last])) := by
  obtain ⟨char, rest, hchars, hchar⟩ := h.begins
  obtain ⟨initial, more, hsplit⟩ := exists_splitOn_eq_cons rest
  have hwhole : text.toList.splitOn ',' = (char :: initial) :: more := by
    rw [hchars, splitOn_cons_of_ne hchar.ne_comma, hsplit, List.modifyHead_cons]
  refine ⟨_, not_isName_strip_cons hchar initial, ?_⟩
  by_cases hcomma : ',' ∈ text.toList
  · obtain ⟨front, last, hends, hlast, hname⟩ := h.ends hcomma
    obtain ⟨pieces, piece, hconcat⟩ := exists_splitOn_concat hlast.ne_comma front
    rw [← hends, hwhole] at hconcat
    cases pieces with
    | nil =>
        left
        obtain ⟨-, rfl⟩ := List.cons.inj hconcat
        rw [piecesOf, hwhole]
        rfl
    | cons first inner =>
        right
        obtain ⟨-, rfl⟩ := List.cons.inj hconcat
        refine ⟨inner.map fun piece => strip (String.ofList piece),
          strip (String.ofList (piece ++ [last])), ?_, ?_⟩
        · intro hlastName
          rw [canName_of_isName_strip hlastName (by simp) hlast.not_isBlank] at hname
          cases hname
        · rw [piecesOf, hwhole]
          simp
  · left
    have hsingle : text.toList.splitOn ',' = [text.toList] := by
      rw [List.splitOn_eq_splitOnP]
      refine List.splitOnP_eq_singleton fun other hother => ?_
      simp only [beq_eq_false_iff_ne, ne_eq]
      rintro rfl
      exact hcomma hother
    obtain ⟨-, rfl⟩ := List.cons.inj (hwhole.symm.trans hsingle)
    rw [piecesOf, hwhole]
    rfl

/-- Of a fenced text only inner pieces can be known names. -/
theorem IsFenced.filter_piecesOf (h : IsFenced text)
    (hnames : ∀ name, known name = true → IsName name) :
    (piecesOf text.toList).filter known = (innerPieces text).filter known := by
  have hunknown : ∀ {name}, ¬ IsName name → ¬ known name = true :=
    fun hname hknown => hname (hnames _ hknown)
  obtain ⟨first, hfirst, hsingle | ⟨inner, last, hlast, hpieces⟩⟩ := h.exists_piecesOf
  · rw [innerPieces, hsingle, List.filter_cons_of_neg (hunknown hfirst)]
    rfl
  · rw [innerPieces, hpieces, List.filter_cons_of_neg (hunknown hfirst), List.tail_cons,
      List.dropLast_concat, List.filter_append, List.filter_cons_of_neg (hunknown hlast)]
    simp

/-! ### Joined texts -/

theorem piecesOf_intercalate_cons (first second : List Char) (others : List (List Char)) :
    piecesOf ([',', ' '].intercalate (first :: second :: others))
      = piecesOf first ++ piecesOf ([',', ' '].intercalate (second :: others)) := by
  have hjoin : [',', ' '].intercalate (first :: second :: others)
      = first ++ ',' :: ' ' :: [',', ' '].intercalate (second :: others) := by simp
  rw [hjoin, piecesOf_append_comma, piecesOf_cons_blank]

theorem filter_piecesOf_intercalate {texts : List String} (h : ∀ text ∈ texts, IsFenced text)
    (hnames : ∀ name, known name = true → IsName name) :
    (piecesOf (", ".intercalate texts).toList).filter known
      = (texts.flatMap innerPieces).filter known := by
  have hempty : known "" = false :=
    Bool.eq_false_iff.mpr fun hknown => (hnames "" hknown).ne_empty rfl
  rw [String.toList_intercalate]
  change (piecesOf ([',', ' '].intercalate (texts.map String.toList))).filter known = _
  induction texts with
  | nil => simp [piecesOf, hempty, strip, trim, trimStart, trimEnd]
  | cons text texts ih =>
      rw [List.forall_mem_cons] at h
      obtain ⟨htext, htexts⟩ := h
      rw [List.flatMap_cons, List.filter_append, ← htext.filter_piecesOf hnames, ← ih htexts]
      cases texts with
      | nil => simp [piecesOf, hempty, strip, trim, trimStart, trimEnd]
      | cons second others =>
          rw [List.map_cons, List.map_cons, piecesOf_intercalate_cons, List.filter_append]

/-! ### Bodies of signatures -/

namespace Signature

variable {outer head body : String}

/-- A text has at most one shape: its outer name ends at its first opening bracket. -/
theorem HasShape.body_eq (h : HasShape text outer body) {other : String}
    (hstrip : strip text = head ++ "<" ++ other ++ ">") (hhead : '<' ∉ head.toList) :
    body = other := by
  have hchars : outer.toList ++ '<' :: (body.toList ++ ['>'])
      = head.toList ++ '<' :: (other.toList ++ ['>']) :=
    (strip_eq_iff.mp h.strip_eq).symm.trans (strip_eq_iff.mp hstrip)
  have houter : ∀ {front : List Char} (rest : List Char), '<' ∉ front →
      (front ++ '<' :: rest).takeWhile (· ≠ '<') = front := by
    intro front rest hfront
    rw [List.takeWhile_append_of_pos (forall_ne_opening hfront)]
    simp
  have hsame : outer.toList = head.toList := by
    have htake := congrArg (List.takeWhile fun char => decide (char ≠ '<')) hchars
    rwa [houter _ h.opening_not_mem, houter _ hhead] at htake
  rw [hsame, List.append_cancel_left_eq, List.cons.injEq, List.append_cancel_right_eq,
    String.toList_inj] at hchars
  exact hchars.2

theorem argumentsOf_enclosed (hhead : IsName head) (body : String) :
    argumentsOf (head ++ "<" ++ body ++ ">")
      = if angles.Balanced body.toList then bodyArguments body else [] := by
  have hstrip := strip_enclosed hhead body
  split
  · rename_i hbalanced
    have hshape : HasShape (head ++ "<" ++ body ++ ">") head body :=
      ⟨hstrip, hhead.ne_empty, hhead.not_mem (by decide), hhead.not_mem (by decide), hbalanced⟩
    exact hshape.argumentsOf_eq
  · rename_i hbalanced
    refine argumentsOf_eq_nil ?_
    rintro ⟨outer, other, hshape⟩
    obtain rfl := hshape.body_eq hstrip (hhead.not_mem (by decide))
    exact hbalanced hshape.balanced

end Signature

end RecordDocs
