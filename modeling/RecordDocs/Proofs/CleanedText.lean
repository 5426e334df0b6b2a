import RecordDocs.Proofs.TextPieces
import RecordDocs.Text.Margin

/-!
# Cleaning a doc text

A doc text is cleaned of its margin and then cut into lines. Both lose nothing but blanks: every
break is blank, and so is all that is taken away as a margin, because a margin is no wider than the
indentation of any line with something on it.
-/

namespace RecordDocs.Text

variable {chars line : List Char}

/-! ### What is not blank -/

def nonBlanks (chars : List Char) : List Char :=
  chars.filter fun char => !isBlank char

theorem isBlank_of_isLineBreak {char : Char} (h : isLineBreak char = true) :
    isBlank char = true := by
  simp only [isLineBreak, isBlank, Bool.or_eq_true, Bool.and_eq_true, decide_eq_true_eq,
    beq_iff_eq] at h ⊢
  omega

theorem nonBlanks_cons_of_isBlank {char : Char} (h : isBlank char = true) (rest : List Char) :
    nonBlanks (char :: rest) = nonBlanks rest := by
  rw [nonBlanks, List.filter_cons_of_neg (by simpa using h)]
  rfl

theorem nonBlanks_append (front rest : List Char) :
    nonBlanks (front ++ rest) = nonBlanks front ++ nonBlanks rest :=
  List.filter_append front rest

theorem flatten_consLine (char : Char) (pieces : List (List Char)) :
    (consLine char pieces).flatten = char :: pieces.flatten := by
  cases pieces <;> rfl

theorem nonBlanks_flatten_splitLines (chars : List Char) :
    nonBlanks (splitLines chars).flatten = nonBlanks chars := by
  induction chars using splitLines.induct with
  | case1 => rfl
  | case2 rest ih =>
      rw [splitLines, List.flatten_cons, List.nil_append, ih,
        nonBlanks_cons_of_isBlank (by decide), nonBlanks_cons_of_isBlank (by decide)]
  | case3 char rest hpair hbreak ih =>
      rw [splitLines, if_pos hbreak, List.flatten_cons, List.nil_append, ih,
        nonBlanks_cons_of_isBlank (isBlank_of_isLineBreak hbreak)]
      exact hpair
  | case4 char rest hpair hbreak ih =>
      have hchar : isLineBreak char = false := by simpa using hbreak
      rw [splitLines_cons hchar, flatten_consLine]
      change nonBlanks ([char] ++ _) = nonBlanks ([char] ++ rest)
      rw [nonBlanks_append, nonBlanks_append, ih]

/-! ### Cleaning -/

theorem nonBlanks_eq_nil (h : ∀ char ∈ chars, isBlank char = true) : nonBlanks chars = [] := by
  rw [nonBlanks, List.filter_eq_nil_iff]
  simpa using h

theorem nonBlanks_expandTabs (column : Nat) (chars : List Char) :
    nonBlanks (expandTabs column chars) = nonBlanks chars := by
  induction column, chars using expandTabs.induct with
  | case1 column => rfl
  | case2 column rest width ih =>
      have hblanks : nonBlanks (List.replicate width ' ') = [] := by
        refine nonBlanks_eq_nil fun char hmem => ?_
        rw [List.eq_of_mem_replicate hmem]
        rfl
      rw [expandTabs, nonBlanks_append, hblanks, List.nil_append, ih,
        nonBlanks_cons_of_isBlank (by decide)]
  | case3 column char rest hne next ih =>
      rw [expandTabs]
      · change nonBlanks ([char] ++ _) = nonBlanks ([char] ++ rest)
        rw [nonBlanks_append, nonBlanks_append, ih]
      · exact hne

theorem nonBlanks_trimStart (chars : List Char) :
    nonBlanks (trimStart chars) = nonBlanks chars := by
  have hblanks : nonBlanks (chars.takeWhile isBlank) = [] :=
    nonBlanks_eq_nil (List.all_eq_true.mp List.all_takeWhile)
  calc nonBlanks (trimStart chars)
      = nonBlanks (chars.takeWhile isBlank ++ trimStart chars) := by
        rw [nonBlanks_append, hblanks, List.nil_append]
    _ = nonBlanks chars := by rw [trimStart, List.takeWhile_append_dropWhile]

/-- A line loses nothing but blanks if it is cut no further than it is indented. -/
theorem nonBlanks_drop {margin : Nat} (h : ∀ width ∈ indentation? line, margin ≤ width) :
    nonBlanks (line.drop margin) = nonBlanks line := by
  have hsplit : line.takeWhile isBlank ++ trimStart line = line :=
    List.takeWhile_append_dropWhile
  have hfront : ∀ char ∈ line.take margin, isBlank char = true := by
    have hblank : ∀ char ∈ line.takeWhile isBlank, isBlank char = true :=
      List.all_eq_true.mp List.all_takeWhile
    intro char hmem
    by_cases hcontent : (trimStart line).length = 0
    · -- nothing but blanks is on the line
      rw [List.length_eq_zero_iff.mp hcontent, List.append_nil] at hsplit
      exact hblank char (hsplit.symm ▸ List.mem_of_mem_take hmem)
    · have hwidth : indentation? line = some (line.takeWhile isBlank).length := by
        have hlength := congrArg List.length hsplit
        rw [List.length_append] at hlength
        rw [indentation?, if_neg (by simpa using hcontent), ← hlength, Nat.add_sub_cancel]
      have hle := h _ hwidth
      rw [← hsplit, List.take_append_of_le_length hle] at hmem
      exact hblank char (List.mem_of_mem_take hmem)
  calc nonBlanks (line.drop margin)
      = nonBlanks (line.take margin ++ line.drop margin) := by
        rw [nonBlanks_append, nonBlanks_eq_nil hfront, List.nil_append]
    _ = nonBlanks line := by rw [List.take_append_drop]

theorem flatten_dropWhile_isEmpty (pieces : List (List Char)) :
    (pieces.dropWhile List.isEmpty).flatten = pieces.flatten := by
  induction pieces with
  | nil => rfl
  | cons piece rest ih =>
      cases piece with
      | nil => exact ih
      | cons char others => rfl

theorem flatten_dropEmptyLines (pieces : List (List Char)) :
    (dropEmptyLines pieces).flatten = pieces.flatten := by
  have hempty : ((pieces.reverse.takeWhile List.isEmpty).reverse).flatten = [] := by
    rw [List.flatten_eq_nil_iff]
    intro piece hmem
    rw [List.mem_reverse] at hmem
    exact List.isEmpty_iff.mp (List.all_eq_true.mp List.all_takeWhile piece hmem)
  calc (dropEmptyLines pieces).flatten
      = ((pieces.reverse.dropWhile List.isEmpty).reverse
          ++ (pieces.reverse.takeWhile List.isEmpty).reverse).flatten := by
        rw [dropEmptyLines, flatten_dropWhile_isEmpty, List.flatten_append, hempty, List.append_nil]
    _ = pieces.flatten := by
        rw [← List.reverse_append, List.takeWhile_append_dropWhile, List.reverse_reverse]

theorem nonBlanks_flatten_map {change : List Char → List Char} {pieces : List (List Char)}
    (h : ∀ piece ∈ pieces, nonBlanks (change piece) = nonBlanks piece) :
    nonBlanks (pieces.map change).flatten = nonBlanks pieces.flatten := by
  induction pieces with
  | nil => rfl
  | cons piece rest ih =>
      rw [List.forall_mem_cons] at h
      rw [List.map_cons, List.flatten_cons, List.flatten_cons, nonBlanks_append, nonBlanks_append,
        h.1, ih h.2]

theorem nonBlanks_intercalate (pieces : List (List Char)) :
    nonBlanks (['\n'].intercalate pieces) = nonBlanks pieces.flatten := by
  induction pieces with
  | nil => rfl
  | cons piece rest ih =>
      cases rest with
      | nil => rw [List.intercalate_singleton, List.flatten_singleton]
      | cons next behind =>
          have hbreak : nonBlanks ['\n'] = [] := rfl
          rw [List.intercalate_cons_cons, List.flatten_cons, nonBlanks_append, nonBlanks_append,
            nonBlanks_append, ih, hbreak, List.append_nil]

theorem nonBlanks_removeMargin (chars : List Char) :
    nonBlanks (removeMargin chars) = nonBlanks chars := by
  have hpieces := nonBlanks_intercalate (splitAt '\n' (expandTabs 0 chars))
  rw [intercalate_splitAt, nonBlanks_expandTabs] at hpieces
  rw [removeMargin, hpieces]
  split
  · rename_i hsplit
    exact absurd hsplit (splitAt_ne_nil _ _)
  · rename_i first later hsplit
    dsimp only
    rw [nonBlanks_intercalate, flatten_dropEmptyLines, List.flatten_cons, nonBlanks_append,
      nonBlanks_trimStart, nonBlanks_flatten_map, ← nonBlanks_append, hsplit, List.flatten_cons]
    intro piece hmem
    refine nonBlanks_drop fun width hwidth => ?_
    exact List.min?_getD_le_of_mem (List.mem_filterMap.mpr ⟨piece, hmem, hwidth⟩)

/-- **Cleaning loses nothing.** The lines of a cleaned doc text hold all that is not blank in the
text, in order. -/
theorem nonBlanks_lines_cleanMargin (text : String) :
    nonBlanks ((lines (cleanMargin text)).flatMap String.toList) = nonBlanks text.toList := by
  rw [lines, cleanMargin, String.toList_ofList, List.flatMap_map]
  simp only [String.toList_ofList, List.flatMap_id']
  rw [nonBlanks_flatten_splitLines, nonBlanks_removeMargin]

end RecordDocs.Text
