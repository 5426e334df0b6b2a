import RecordDocs.Text.Code

/-!
# Surrogates

The codes from D800 to DFFF are halves: two of them together stand for one character beyond FFFF,
and one alone is no character. An escape may denote a half all the same. A text holds it as the
character of the same last digits in a plane for private use. Where a text has such a character of
its own, a mark stands in front of it. For the mark itself there is a mark with a stand-in, so that
a mark is always the first of two characters. So the codes that a text was given can be told from
what it holds.
-/

namespace RecordDocs.Text

def isHighSurrogate (code : Nat) : Bool := 0xD800 ≤ code && code < 0xDC00

def isLowSurrogate (code : Nat) : Bool := 0xDC00 ≤ code && code < 0xE000

def isSurrogate (code : Nat) : Bool := 0xD800 ≤ code && code < 0xE000

def joinSurrogates (high low : Nat) : Nat :=
  0x10000 + (high - 0xD800) * 0x400 + (low - 0xDC00)

/-! ### Codes in a text -/

def surrogateShift : Nat := 0xF0000

/-- Its code is never given to a character. -/
def ownMark : Char := Char.ofNat 0x8FFFE

/-- What stands behind a mark for the mark itself. -/
def markStandIn : Char := Char.ofNat 0x8FFFF

/-- Whether a character holds a half, unless a mark is in front of it. -/
def holdsSurrogate (char : Char) : Bool :=
  surrogateShift ≤ char.toNat && isSurrogate (char.toNat - surrogateShift)

def charOfCode (code : Nat) : Char :=
  if isSurrogate code then Char.ofNat (surrogateShift + code) else Char.ofNat code

def hold (code : Nat) : List Char :=
  if holdsSurrogate (Char.ofNat code) then [ownMark, Char.ofNat code]
  else if code == ownMark.toNat then [ownMark, markStandIn]
  else [charOfCode code]

def holdAll (chars : List Char) : List Char :=
  chars.flatMap fun char => hold char.toNat

/-- The text of some characters. -/
def ofChars (chars : List Char) : String :=
  String.ofList (holdAll chars)

/-- What a text holds for one code after another. -/
def units : List Char → List (List Char)
  | [] => []
  | [char] => [[char]]
  | first :: char :: rest =>
      if first == ownMark then [first, char] :: units rest else [first] :: units (char :: rest)

def codeOf : List Char → Nat
  | [] => 0
  | [char] => if holdsSurrogate char then char.toNat - surrogateShift else char.toNat
  | _ :: char :: _ => if char == markStandIn then ownMark.toNat else char.toNat

def codes (chars : List Char) : List Nat :=
  (units chars).map codeOf

/-- The characters that a text without halves was given. -/
def plainChars (chars : List Char) : List Char :=
  (codes chars).map Char.ofNat

/-- The characters of a text, each as a text of its own. A half counts as one. -/
def characters (text : String) : List String :=
  (units text.toList).map String.ofList

/-! ### Laws of codes -/

theorem isSurrogate_toNat (char : Char) : isSurrogate char.toNat = false := by
  have hvalid : char.toNat < 0xD800 ∨ 0xDFFF < char.toNat ∧ char.toNat < 0x110000 := char.valid
  simp only [isSurrogate, Bool.and_eq_false_iff, decide_eq_false_iff_not]
  omega

theorem isHighSurrogate_toNat (char : Char) : isHighSurrogate char.toNat = false := by
  have hnone := isSurrogate_toNat char
  simp only [isSurrogate, isHighSurrogate, Bool.and_eq_false_iff, decide_eq_false_iff_not]
    at hnone ⊢
  omega

theorem charOfCode_toNat (char : Char) : charOfCode char.toNat = char := by
  rw [charOfCode, isSurrogate_toNat]
  exact Char.ofNat_toNat char

theorem toNat_ofNat_of_not_isSurrogate {code : Nat} (h : code < 0x110000)
    (hchar : isSurrogate code = false) : (Char.ofNat code).toNat = code := by
  have hvalid : code.isValidChar := by
    simp only [isSurrogate, Bool.and_eq_false_iff, decide_eq_false_iff_not] at hchar
    rw [Nat.isValidChar]
    omega
  rw [Char.ofNat, dif_pos hvalid]
  rfl

theorem holdsSurrogate_iff {char : Char} :
    holdsSurrogate char = true ↔ 0xFD800 ≤ char.toNat ∧ char.toNat < 0xFE000 := by
  rw [holdsSurrogate, surrogateShift, isSurrogate, Bool.and_eq_true, Bool.and_eq_true,
    decide_eq_true_eq, decide_eq_true_eq, decide_eq_true_eq]
  omega

theorem ofNat_of_isSurrogate {code : Nat} (h : isSurrogate code = true) :
    Char.ofNat code = '\x00' := by
  have hinvalid : ¬ code.isValidChar := by
    simp only [isSurrogate, Bool.and_eq_true, decide_eq_true_eq] at h
    rw [Nat.isValidChar]
    omega
  rw [Char.ofNat, dif_neg hinvalid]
  rfl

theorem toNat_charOfCode_of_isSurrogate {code : Nat} (h : isSurrogate code = true) :
    (charOfCode code).toNat = surrogateShift + code := by
  rw [charOfCode, if_pos h]
  simp only [isSurrogate, Bool.and_eq_true, decide_eq_true_eq] at h
  apply toNat_ofNat_of_not_isSurrogate
  · rw [surrogateShift]
    omega
  · rw [isSurrogate, surrogateShift, Bool.and_eq_false_iff, decide_eq_false_iff_not,
      decide_eq_false_iff_not]
    omega

theorem toNat_charOfCode_of_not_isSurrogate {code : Nat} (h : code < 0x110000)
    (hchar : isSurrogate code = false) : (charOfCode code).toNat = code := by
  rw [charOfCode, hchar, if_neg Bool.false_ne_true, toNat_ofNat_of_not_isSurrogate h hchar]

theorem isSurrogate_eq_false_of_holdsSurrogate {code : Nat}
    (h : holdsSurrogate (Char.ofNat code) = true) : isSurrogate code = false := by
  cases hhalf : isSurrogate code with
  | false => rfl
  | true =>
      rw [ofNat_of_isSurrogate hhalf] at h
      exact absurd h (by decide)

theorem charOfCode_ne_ownMark {code : Nat} (h : code < 0x110000) (hmark : code ≠ ownMark.toNat) :
    charOfCode code ≠ ownMark := by
  intro heq
  cases hhalf : isSurrogate code with
  | true =>
      have hcode := toNat_charOfCode_of_isSurrogate hhalf
      have hown : ownMark.toNat = 0x8FFFE := by decide
      rw [heq, hown, surrogateShift] at hcode
      omega
  | false =>
      rw [← heq, toNat_charOfCode_of_not_isSurrogate h hhalf] at hmark
      exact hmark rfl

theorem codeOf_charOfCode {code : Nat} (h : code < 0x110000)
    (hown : holdsSurrogate (Char.ofNat code) = false) : codeOf [charOfCode code] = code := by
  cases hhalf : isSurrogate code with
  | true =>
      have hcode := toNat_charOfCode_of_isSurrogate hhalf
      simp only [isSurrogate, Bool.and_eq_true, decide_eq_true_eq] at hhalf
      rw [surrogateShift] at hcode
      rw [codeOf, if_pos (holdsSurrogate_iff.mpr (by omega)), hcode, surrogateShift]
      omega
  | false =>
      have hcode := toNat_charOfCode_of_not_isSurrogate h hhalf
      have hplain : charOfCode code = Char.ofNat code := by
        rw [charOfCode, hhalf, if_neg Bool.false_ne_true]
      rw [codeOf, hplain, hown, if_neg Bool.false_ne_true, ← hplain, hcode]

theorem codeOf_hold {code : Nat} (h : code < 0x110000) : codeOf (hold code) = code := by
  rw [hold]
  split
  · rename_i hown
    have hne : (Char.ofNat code == markStandIn) = false := by
      refine beq_eq_false_iff_ne.mpr fun heq => ?_
      rw [heq] at hown
      exact absurd hown (by decide)
    rw [codeOf, hne, if_neg Bool.false_ne_true,
      toNat_ofNat_of_not_isSurrogate h (isSurrogate_eq_false_of_holdsSurrogate hown)]
  · rename_i hown
    split
    · rename_i hmark
      exact (beq_iff_eq.mp hmark).symm
    · exact codeOf_charOfCode h (Bool.eq_false_iff.mpr hown)

/-- What is held for a code is told from what stands behind it. -/
theorem units_hold_append {code : Nat} (h : code < 0x110000) (rest : List Char) :
    units (hold code ++ rest) = hold code :: units rest := by
  rw [hold]
  split
  · exact if_pos rfl
  · split
    · exact if_pos rfl
    · rename_i hmark
      have hne := charOfCode_ne_ownMark h (by simpa using hmark)
      cases rest with
      | nil => rfl
      | cons next others => exact if_neg (by simpa using hne)

theorem flatten_units (chars : List Char) : (units chars).flatten = chars := by
  induction chars using units.induct with
  | case1 => rfl
  | case2 char => rfl
  | case3 first char rest hmark ih => rw [units, if_pos hmark, List.flatten_cons, ih]; rfl
  | case4 first char rest hmark ih => rw [units, if_neg hmark, List.flatten_cons, ih]; rfl

theorem isEmpty_characters (text : String) : (characters text).isEmpty = text.isEmpty := by
  rw [characters, List.isEmpty_map, Bool.eq_iff_iff, List.isEmpty_iff, String.isEmpty_iff,
    ← String.toList_eq_nil_iff]
  refine ⟨fun h => ?_, fun h => by rw [h]; rfl⟩
  have hflatten := flatten_units text.toList
  rw [h] at hflatten
  exact hflatten.symm

/-- **A text holds the codes that it was given**, be they those of characters or of halves. -/
theorem codes_flatMap_hold {given : List Nat} (h : ∀ code ∈ given, code < 0x110000) :
    codes (given.flatMap hold) = given := by
  induction given with
  | nil => rfl
  | cons code others ih =>
      rw [List.forall_mem_cons] at h
      rw [codes, List.flatMap_cons, units_hold_append h.1, List.map_cons, codeOf_hold h.1]
      exact congrArg (code :: ·) (ih h.2)

theorem toNat_lt (char : Char) : char.toNat < 0x110000 := by
  have hvalid : char.toNat < 0xD800 ∨ 0xDFFF < char.toNat ∧ char.toNat < 0x110000 := char.valid
  omega

theorem codes_holdAll (chars : List Char) : codes (holdAll chars) = chars.map Char.toNat := by
  rw [holdAll, ← List.flatMap_map, codes_flatMap_hold]
  intro code hcode
  obtain ⟨char, -, rfl⟩ := List.mem_map.mp hcode
  exact toNat_lt char

theorem hold_toNat_of_lt {char : Char} (h : char.toNat < 0x8FFFE) : hold char.toNat = [char] := by
  have hown : ¬ holdsSurrogate char = true := fun hholds => by
    have hbounds := holdsSurrogate_iff.mp hholds
    omega
  have hmark : ¬ (char.toNat == ownMark.toNat) = true := by
    have hcode : ownMark.toNat = 0x8FFFE := by decide
    rw [hcode, beq_iff_eq]
    omega
  rw [hold, Char.ofNat_toNat, if_neg hown, if_neg hmark, charOfCode_toNat]

/-- Almost every character stands for itself in a text. -/
theorem holdAll_eq_self {chars : List Char} (h : ∀ char ∈ chars, char.toNat < 0x8FFFE) :
    holdAll chars = chars := by
  induction chars with
  | nil => rfl
  | cons char rest ih =>
      rw [List.forall_mem_cons] at h
      rw [holdAll, List.flatMap_cons, hold_toNat_of_lt h.1]
      exact congrArg (char :: ·) (ih h.2)

theorem ofChars_toList {text : String}
    (h : text.toList.all (fun char => char.toNat < 0x8FFFE) = true) :
    ofChars text.toList = text := by
  rw [ofChars, holdAll_eq_self (by simpa using h), String.ofList_toList]

structure SurrogateRun where
  position : Nat
  first : Nat
  length : Nat
  deriving DecidableEq, Repr

/-- The halves that stand side by side from the first one on that is barred. -/
def surrogatesFrom? (isBarred : Nat → Bool) (chars : List Char) : Option SurrogateRun :=
  let codes := codes chars
  match codes.dropWhile (!isBarred ·) with
  | [] => none
  | first :: rest =>
      some ⟨(codes.takeWhile (!isBarred ·)).length, first, (rest.takeWhile isSurrogate).length + 1⟩

/-- The first halves of a text. A text with any cannot be encoded. -/
def firstSurrogates? (chars : List Char) : Option SurrogateRun :=
  surrogatesFrom? isSurrogate chars

/-- The halves from DC80 to DCFF stand for the octets of a file name that is no text. Others cannot
be part of a name. -/
def barredInName? (chars : List Char) : Option SurrogateRun :=
  surrogatesFrom? (fun code => isSurrogate code && !(0xDC80 ≤ code && code ≤ 0xDCFF)) chars

def SurrogateRun.message (run : SurrogateRun) : String :=
  let place :=
    if run.length == 1 then
      "character '\\u" ++ String.ofList (hexDigits 4 run.first) ++ "' in position "
        ++ toString run.position
    else
      "characters in position " ++ toString run.position ++ "-"
        ++ toString (run.position + run.length - 1)
  "'utf-8' codec can't encode " ++ place ++ ": surrogates not allowed"

end RecordDocs.Text
