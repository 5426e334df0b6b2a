/-!
# Blank characters

The characters that may be trimmed from the ends of a text, and trimming itself. Trimming is done
on character lists, where its laws are inductions on the list; `strip` is the same for strings.
-/

namespace RecordDocs.Text

/-- The characters with the Unicode white space property, and the four information separators.
Zero-width characters are not blank. -/
def isBlank (char : Char) : Bool :=
  let code := char.toNat
  (9 ≤ code && code ≤ 13) || (28 ≤ code && code ≤ 32) || code == 0x85 || code == 0xA0
    || code == 0x1680 || (0x2000 ≤ code && code ≤ 0x200A) || code == 0x2028 || code == 0x2029
    || code == 0x202F || code == 0x205F || code == 0x3000

def trimStart (chars : List Char) : List Char :=
  chars.dropWhile isBlank

def trimEnd (chars : List Char) : List Char :=
  (chars.reverse.dropWhile isBlank).reverse

def trim (chars : List Char) : List Char :=
  trimEnd (trimStart chars)

/-! ### What is trimmed stays as it is -/

theorem trimStart_eq_self {chars : List Char} (h : ∀ char ∈ chars.head?, isBlank char = false) :
    trimStart chars = chars := by
  cases chars with
  | nil => rfl
  | cons char rest =>
      rw [trimStart, List.dropWhile_cons, h char rfl]
      rfl

theorem not_isBlank_head?_trimStart (chars : List Char) :
    ∀ char ∈ (trimStart chars).head?, isBlank char = false := by
  intro char hchar
  have hhead := List.head?_dropWhile_not isBlank chars
  rw [trimStart] at hchar
  rw [hchar] at hhead
  simpa using hhead

theorem trimEnd_prefix (chars : List Char) : trimEnd chars <+: chars := by
  rw [trimEnd, ← List.reverse_suffix, List.reverse_reverse]
  exact List.dropWhile_suffix isBlank

theorem trimEnd_trimEnd (chars : List Char) : trimEnd (trimEnd chars) = trimEnd chars := by
  have hstart := trimStart_eq_self (not_isBlank_head?_trimStart chars.reverse)
  rw [trimEnd, trimEnd, List.reverse_reverse]
  exact congrArg List.reverse hstart

theorem not_isBlank_head?_trim (chars : List Char) :
    ∀ char ∈ (trim chars).head?, isBlank char = false := by
  obtain ⟨rest, hrest⟩ := trimEnd_prefix (trimStart chars)
  intro char hchar
  refine not_isBlank_head?_trimStart chars char ?_
  rw [trim] at hchar
  rw [← hrest, List.head?_append, hchar]
  rfl

theorem trimEnd_eq_self {chars : List Char} (h : ∀ char ∈ chars.getLast?, isBlank char = false) :
    trimEnd chars = chars := by
  rw [← List.head?_reverse] at h
  rw [trimEnd]
  exact List.reverse_eq_iff.mpr (trimStart_eq_self h)

theorem trim_eq_self {chars : List Char} (hhead : ∀ char ∈ chars.head?, isBlank char = false)
    (hlast : ∀ char ∈ chars.getLast?, isBlank char = false) : trim chars = chars := by
  rw [trim, trimStart_eq_self hhead, trimEnd_eq_self hlast]

theorem not_isBlank_getLast?_trim (chars : List Char) :
    ∀ char ∈ (trim chars).getLast?, isBlank char = false := by
  intro char hchar
  rw [trim, trimEnd, List.getLast?_reverse] at hchar
  exact not_isBlank_head?_trimStart _ char hchar

theorem trim_cons_of_trimmed {char : Char} {chars : List Char} (hchar : isBlank char = false)
    (h : trim chars = chars) : trim (char :: chars) = char :: chars := by
  refine trim_eq_self (by rintro other ⟨⟩; exact hchar) fun last hlast => ?_
  rw [List.getLast?_cons] at hlast
  cases hend : chars.getLast? with
  | none =>
      rw [hend] at hlast
      cases hlast
      exact hchar
  | some other =>
      rw [hend] at hlast
      obtain rfl : other = last := Option.some.inj hlast
      refine not_isBlank_getLast?_trim chars other ?_
      rw [h]
      exact hend

theorem trim_concat_of_trimmed {char : Char} {chars : List Char} (hchar : isBlank char = false)
    (h : trim chars = chars) : trim (chars ++ [char]) = chars ++ [char] := by
  refine trim_eq_self (fun first hfirst => ?_) ?_
  · rw [List.head?_append] at hfirst
    cases hbegin : chars.head? with
    | none =>
        rw [hbegin] at hfirst
        cases hfirst
        exact hchar
    | some other =>
        rw [hbegin] at hfirst
        obtain rfl : other = first := Option.some.inj hfirst
        refine not_isBlank_head?_trim chars other ?_
        rw [h]
        exact hbegin
  · rw [List.getLast?_concat]
    rintro other ⟨⟩
    exact hchar

theorem trim_cons_of_blank {char : Char} (h : isBlank char = true) (rest : List Char) :
    trim (char :: rest) = trim rest := by
  rw [trim, trimStart, List.dropWhile_cons_of_pos h]
  rfl

theorem trim_trim (chars : List Char) : trim (trim chars) = trim chars := by
  have hstart : trimStart (trim chars) = trim chars :=
    trimStart_eq_self (not_isBlank_head?_trim chars)
  rw [trim, hstart, trim, trimEnd_trimEnd]

/-- Trimming takes blanks off the two ends and nothing else. -/
theorem exists_blanks_append_trim (chars : List Char) :
    ∃ front back, (∀ char ∈ front, isBlank char = true) ∧ (∀ char ∈ back, isBlank char = true) ∧
      chars = front ++ trim chars ++ back := by
  refine
    ⟨chars.takeWhile isBlank, ((trimStart chars).reverse.takeWhile isBlank).reverse, ?_, ?_, ?_⟩
  · exact List.all_eq_true.mp List.all_takeWhile
  · simpa using List.all_eq_true.mp (List.all_takeWhile (p := isBlank))
  · have hstart : trim chars ++ ((trimStart chars).reverse.takeWhile isBlank).reverse
        = trimStart chars := by
      rw [trim, trimEnd, ← List.reverse_append, List.takeWhile_append_dropWhile,
        List.reverse_reverse]
    rw [List.append_assoc, hstart, trimStart, List.takeWhile_append_dropWhile]

theorem mem_of_mem_trim {chars : List Char} {char : Char} (h : char ∈ trim chars) :
    char ∈ chars := by
  obtain ⟨front, back, _, _, hchars⟩ := exists_blanks_append_trim chars
  rw [hchars]
  exact List.mem_append_left back (List.mem_append_right front h)

theorem trim_ne_nil {chars : List Char} {char : Char} (hmem : char ∈ chars)
    (h : isBlank char = false) : trim chars ≠ [] := by
  obtain ⟨front, back, hfront, hback, hchars⟩ := exists_blanks_append_trim chars
  intro hnil
  rw [hnil, List.append_nil] at hchars
  rw [hchars, List.mem_append] at hmem
  have hblank : isBlank char = true := hmem.elim (hfront char) (hback char)
  rw [h] at hblank
  cases hblank

def strip (text : String) : String :=
  String.ofList (trim text.toList)

/-- A text is blank when nothing but blanks is in it; the empty text is. -/
def allBlank (text : String) : Bool :=
  text.toList.all isBlank

end RecordDocs.Text
