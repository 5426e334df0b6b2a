import RecordDocs.Text.Lines

/-!
# Pieces and lines of a text

Cutting a text at a character and joining the pieces again gives the text. Lines are another matter:
there are many breaks and a last one opens no line, so that only the lines of a text that ends in no
break can be joined and cut again. No line has a break in it.
-/

namespace RecordDocs.Text

variable {separator : Char} {chars line rest : List Char} {pieces : List (List Char)}

/-! ### Pieces -/

theorem splitAt_eq_splitOn (separator : Char) (chars : List Char) :
    splitAt separator chars = chars.splitOn separator := by
  induction chars with
  | nil => simp [splitAt]
  | cons char rest ih =>
      rw [splitAt, ih, List.splitOn_eq_splitOnP, List.splitOn_eq_splitOnP,
        List.splitOnP_cons_eq_if_modifyHead]
      split
      · rfl
      · obtain ⟨first, others, hpieces⟩ :=
          List.exists_cons_of_ne_nil (List.splitOnP_ne_nil (· == separator) rest)
        rw [hpieces]
        rfl

theorem splitAt_ne_nil (separator : Char) (chars : List Char) : splitAt separator chars ≠ [] := by
  rw [splitAt_eq_splitOn]
  exact List.splitOn_ne_nil _ _

theorem intercalate_splitAt (separator : Char) (chars : List Char) :
    [separator].intercalate (splitAt separator chars) = chars := by
  rw [splitAt_eq_splitOn, List.intercalate_splitOn]

/-! ### Lines -/

theorem splitLines_cons {char : Char} (h : isLineBreak char = false) (rest : List Char) :
    splitLines (char :: rest) = consLine char (splitLines rest) := by
  rw [splitLines, if_neg (by simp [h])]
  rintro after rfl -
  cases h

theorem splitLines_append_cons (h : ∀ char ∈ line, isLineBreak char = false) (rest : List Char) :
    splitLines (line ++ '\n' :: rest) = line :: splitLines rest := by
  induction line with
  | nil => rfl
  | cons char others ih =>
      rw [List.forall_mem_cons] at h
      rw [List.cons_append, splitLines_cons h.1, ih h.2]
      rfl

theorem splitLines_of_forall (h : ∀ char ∈ line, isLineBreak char = false) (hne : line ≠ []) :
    splitLines line = [line] := by
  induction line with
  | nil => exact absurd rfl hne
  | cons char others ih =>
      rw [List.forall_mem_cons] at h
      rw [splitLines_cons h.1]
      cases others with
      | nil => rfl
      | cons next behind =>
          rw [ih h.2 (List.cons_ne_nil _ _)]
          rfl

theorem splitLines_intercalate (hbreaks : ∀ line ∈ pieces, ∀ char ∈ line, isLineBreak char = false)
    (hlast : ∀ last ∈ pieces.getLast?, last ≠ []) :
    splitLines (['\n'].intercalate pieces) = pieces := by
  induction pieces with
  | nil => rfl
  | cons line others ih =>
      rw [List.forall_mem_cons] at hbreaks
      cases others with
      | nil =>
          rw [List.intercalate_singleton]
          exact splitLines_of_forall hbreaks.1 (hlast line rfl)
      | cons next behind =>
          rw [List.intercalate_cons_cons, List.append_assoc, List.singleton_append,
            splitLines_append_cons hbreaks.1, ih hbreaks.2 hlast]

theorem not_isLineBreak_of_mem_consLine {char : Char} (hchar : isLineBreak char = false)
    (hpieces : ∀ line ∈ pieces, ∀ other ∈ line, isLineBreak other = false) :
    ∀ line ∈ consLine char pieces, ∀ other ∈ line, isLineBreak other = false := by
  cases pieces with
  | nil => simpa [consLine] using hchar
  | cons line others =>
      rw [List.forall_mem_cons] at hpieces
      rw [consLine, List.forall_mem_cons, List.forall_mem_cons]
      exact ⟨⟨hchar, hpieces.1⟩, hpieces.2⟩

theorem not_isLineBreak_of_mem_splitLines (chars : List Char) :
    ∀ line ∈ splitLines chars, ∀ char ∈ line, isLineBreak char = false := by
  induction chars using splitLines.induct with
  | case1 => simp [splitLines]
  | case2 rest ih => simpa [splitLines] using ih
  | case3 char rest hpair hbreak ih =>
      rw [splitLines, if_pos hbreak, List.forall_mem_cons]
      · exact ⟨by simp, ih⟩
      · exact hpair
  | case4 char rest hpair hbreak ih =>
      have hchar : isLineBreak char = false := by simpa using hbreak
      rw [splitLines_cons hchar]
      exact not_isLineBreak_of_mem_consLine hchar ih

end RecordDocs.Text
