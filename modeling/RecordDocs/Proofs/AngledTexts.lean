import RecordDocs.Proofs.SignatureGrammar
import RecordDocs.Reflection

/-!
# Square brackets made angle brackets

The text of an annotation that cannot be resolved becomes a signature by making its square brackets
angle brackets. If there are no angle brackets in the text, this carries its structure over: a
character weighs as much as the one it becomes, so that the same texts are balanced and the same
commas are outside the brackets. Hence a text is read as a signature just if it has the shape of one
with square brackets, and its arguments are those that it has with square brackets.
-/

namespace RecordDocs

open Brackets Text

variable {char : Char} {chars rest : List Char} {before : Int}

/-! ### Characters -/

def NotAngle (char : Char) : Prop :=
  char ≠ '<' ∧ char ≠ '>'

theorem angled_cases (char : Char) :
    (char = '[' ∧ angled char = '<') ∨ (char = ']' ∧ angled char = '>') ∨
      (char ≠ '[' ∧ char ≠ ']' ∧ angled char = char) := by
  by_cases hopening : char = '['
  · exact .inl ⟨hopening, by rw [hopening, angled]⟩
  · by_cases hclosing : char = ']'
    · exact .inr (.inl ⟨hclosing, by rw [hclosing, angled]⟩)
    · refine .inr (.inr ⟨hopening, hclosing, ?_⟩)
      rw [angled]
      · exact hopening
      · exact hclosing

theorem angled_eq_opening_iff (h : NotAngle char) : angled char = '<' ↔ char = '[' := by
  rcases angled_cases char with ⟨rfl, heq⟩ | ⟨rfl, heq⟩ | ⟨hopening, -, heq⟩
  · simp [heq]
  · simp [heq]
  · simp [heq, hopening, h.1]

theorem angled_eq_closing_iff (h : NotAngle char) : angled char = '>' ↔ char = ']' := by
  rcases angled_cases char with ⟨rfl, heq⟩ | ⟨rfl, heq⟩ | ⟨-, hclosing, heq⟩
  · simp [heq]
  · simp [heq]
  · simp [heq, hclosing, h.2]

theorem angled_eq_comma_iff : angled char = ',' ↔ char = ',' := by
  rcases angled_cases char with ⟨rfl, heq⟩ | ⟨rfl, heq⟩ | ⟨-, -, heq⟩
  · simp [heq]
  · simp [heq]
  · rw [heq]

theorem isBlank_angled (char : Char) : isBlank (angled char) = isBlank char := by
  rcases angled_cases char with ⟨rfl, heq⟩ | ⟨rfl, heq⟩ | ⟨-, -, heq⟩
  · rw [heq]
    decide
  · rw [heq]
    decide
  · rw [heq]

theorem map_angled_of_not_mem (hopening : '[' ∉ chars) (hclosing : ']' ∉ chars) :
    chars.map angled = chars := by
  have hsame : ∀ char ∈ chars, angled char = id char := by
    intro char hmem
    rcases angled_cases char with ⟨rfl, -⟩ | ⟨rfl, -⟩ | ⟨-, -, heq⟩
    · exact absurd hmem hopening
    · exact absurd hmem hclosing
    · exact heq
  rw [List.map_congr_left hsame, List.map_id]

/-! ### Trimming -/

theorem trim_map_angled (chars : List Char) :
    trim (chars.map angled) = (trim chars).map angled := by
  have hblank : isBlank ∘ angled = isBlank := funext isBlank_angled
  rw [trim, trimEnd, trimStart, List.dropWhile_map, hblank, ← List.map_reverse, List.dropWhile_map,
    hblank, ← List.map_reverse]
  rfl

theorem toList_angledText (text : String) :
    (angledText text).toList = (trim text.toList).map angled := by
  rw [angledText, String.toList_ofList]

theorem trim_angledText (text : String) :
    trim (angledText text).toList = (trim text.toList).map angled := by
  rw [toList_angledText, trim_map_angled, trim_trim]

/-! ### Brackets -/

namespace Brackets

def squares : Brackets where
  opening := '['
  closing := ']'

/-- A square bracket weighs as much as the angle bracket it becomes. -/
theorem weight_angled (h : NotAngle char) :
    angles.weight (angled char) = squares.weight char := by
  rcases angled_cases char with ⟨rfl, heq⟩ | ⟨rfl, heq⟩ | ⟨hopening, hclosing, heq⟩
  · rw [heq]
    exact weight_opening.trans weight_opening.symm
  · rw [heq]
    exact weight_closing.trans weight_closing.symm
  · rw [heq]
    exact (weight_other h.1 h.2).trans (weight_other hopening hclosing).symm

theorem balancedFrom_map_angled (h : ∀ char ∈ chars, NotAngle char) :
    angles.BalancedFrom before (chars.map angled) ↔ squares.BalancedFrom before chars := by
  induction chars generalizing before with
  | nil => rw [List.map_nil, balancedFrom_nil, balancedFrom_nil]
  | cons char rest ih =>
      rw [List.forall_mem_cons] at h
      rw [List.map_cons, balancedFrom_cons, balancedFrom_cons, weight_angled h.1, ih h.2]

theorem isTopComma_angled (char : Char) (before : Int) :
    isTopComma (angled char, before) = isTopComma (char, before) := by
  simp only [isTopComma, angled_eq_comma_iff]

/-- Cutting and changing the brackets may change places. -/
theorem cut_map_angled (h : ∀ char ∈ chars, NotAngle char) :
    angles.cut before (chars.map angled) = (squares.cut before chars).map (List.map angled) := by
  induction chars generalizing before with
  | nil => rfl
  | cons char rest ih =>
      rw [List.forall_mem_cons] at h
      rw [List.map_cons, cut_cons, cut_cons, isTopComma_angled, weight_angled h.1, ih h.2]
      cases squares.cut (before + squares.weight char) rest <;> split <;> rfl

end Brackets

/-! ### Texts -/

namespace Signature

structure HasSquareShape (text outer body : String) : Prop where
  strip_eq : strip text = outer ++ "[" ++ body ++ "]"
  outer_ne_empty : outer ≠ ""
  opening_not_mem : '[' ∉ outer.toList
  closing_not_mem : ']' ∉ outer.toList
  balanced : squares.Balanced body.toList

variable {text outer body : String}

theorem strip_eq_square_iff :
    strip text = outer ++ "[" ++ body ++ "]" ↔
      trim text.toList = outer.toList ++ '[' :: (body.toList ++ [']']) := by
  rw [← String.toList_inj, strip, String.toList_ofList]
  simp

def HasNoAngles (text : String) : Prop :=
  '<' ∉ text.toList ∧ '>' ∉ text.toList

theorem HasNoAngles.notAngle (h : HasNoAngles text) :
    ∀ char ∈ trim text.toList, NotAngle char := by
  intro char hmem
  have htext := mem_of_mem_trim hmem
  exact ⟨fun heq => h.1 (heq ▸ htext), fun heq => h.2 (heq ▸ htext)⟩

theorem HasSquareShape.notAngle (h : HasSquareShape text outer body)
    (hangles : HasNoAngles text) :
    (∀ char ∈ outer.toList, NotAngle char) ∧ ∀ char ∈ body.toList, NotAngle char := by
  have hchars := hangles.notAngle
  rw [strip_eq_square_iff.mp h.strip_eq] at hchars
  exact ⟨fun char hmem => hchars char (by simp [hmem]),
    fun char hmem => hchars char (by simp [hmem])⟩

theorem HasSquareShape.hasShape (h : HasSquareShape text outer body) (hangles : HasNoAngles text) :
    HasShape (angledText text) outer (String.ofList (body.toList.map angled)) := by
  obtain ⟨houter, hbody⟩ := h.notAngle hangles
  have htrim := strip_eq_square_iff.mp h.strip_eq
  constructor
  · rw [strip_eq_iff, trim_angledText, htrim, List.map_append,
      map_angled_of_not_mem h.opening_not_mem h.closing_not_mem]
    simp [angled]
  · exact h.outer_ne_empty
  · exact fun hmem => (houter _ hmem).1 rfl
  · exact fun hmem => (houter _ hmem).2 rfl
  · rw [String.toList_ofList, balanced_iff, balancedFrom_map_angled hbody, ← balanced_iff]
    exact h.balanced

theorem exists_hasSquareShape (hangles : HasNoAngles text)
    (h : HasShape (angledText text) outer body) :
    ∃ outer body, HasSquareShape text outer body := by
  have hmap := strip_eq_iff.mp h.strip_eq
  have hchars := hangles.notAngle
  rw [trim_angledText] at hmap
  -- every part of the changed text was a part of the text, its brackets square ones
  obtain ⟨front, rest, htrim, hfront, hrest⟩ := List.map_eq_append_iff.mp hmap
  obtain ⟨first, inner, rfl, hfirst, hinner⟩ := List.map_eq_cons_iff.mp hrest
  obtain ⟨middle, last, rfl, hmiddle, hlast⟩ := List.map_eq_append_iff.mp hinner
  obtain ⟨closing, none, rfl, hclosing, hnone⟩ := List.map_eq_cons_iff.mp hlast
  obtain rfl := List.map_eq_nil_iff.mp hnone
  rw [htrim] at hchars
  obtain rfl := (angled_eq_opening_iff (hchars first (by simp))).mp hfirst
  obtain rfl := (angled_eq_closing_iff (hchars closing (by simp))).mp hclosing
  refine ⟨String.ofList front, String.ofList middle, ?_, ?_, ?_, ?_, ?_⟩
  · rw [strip_eq_square_iff, htrim, String.toList_ofList, String.toList_ofList]
  · intro hempty
    obtain rfl : front = [] := by simpa using hempty
    exact h.outer_ne_empty (by simpa using hfront.symm)
  · intro hmem
    rw [String.toList_ofList] at hmem
    have hangled : angled '[' ∈ front.map angled := List.mem_map_of_mem hmem
    rw [hfront] at hangled
    exact h.opening_not_mem hangled
  · intro hmem
    rw [String.toList_ofList] at hmem
    have hangled : angled ']' ∈ front.map angled := List.mem_map_of_mem hmem
    rw [hfront] at hangled
    exact h.closing_not_mem hangled
  · rw [String.toList_ofList, balanced_iff,
      ← balancedFrom_map_angled fun char hmem => hchars char (by simp [hmem]), hmiddle,
      ← balanced_iff]
    exact h.balanced

theorem arguments_ofParts_map_angled (outer : List Char) (h : ∀ char ∈ chars, NotAngle char) :
    (ofParts outer (chars.map angled)).arguments
      = (squares.cut 0 chars).map fun piece => angledText (String.ofList piece) := by
  rw [ofParts, cut_map_angled h, List.map_map]
  refine List.map_congr_left fun piece _ => ?_
  rw [Function.comp_apply, trim_map_angled, angledText, String.toList_ofList]

/-- **The grammar of bracketed annotations.** A text without angle brackets whose square brackets
are made angle brackets is read as a signature exactly if, trimmed, it is an outer name that is not
empty and has no square brackets, an opening square bracket, a text that is balanced in square
brackets, and a closing one. Then the outer name that is read is the one in the text, trimmed, and
the arguments are the pieces of the balanced text between just those commas that are outside its
square brackets, each trimmed and with angle brackets; there is one argument more than there are
such commas. -/
theorem angledText_grammar (text : String) (hangles : HasNoAngles text) :
    (parse? (angledText text) ≠ none ↔ ∃ outer body, HasSquareShape text outer body) ∧
    ∀ outer body, HasSquareShape text outer body →
      ∃ signature, parse? (angledText text) = some signature ∧
        signature.outer = strip outer ∧
        signature.arguments
          = (squares.cut 0 body.toList).map (fun piece => angledText (String.ofList piece)) ∧
        signature.arguments.length = squares.topCommas body.toList + 1 := by
  constructor
  · constructor
    · intro hsome
      obtain ⟨signature, hsignature⟩ := Option.ne_none_iff_exists'.mp hsome
      obtain ⟨outer, body, hshape⟩ := exists_hasShape_of_parse? hsignature
      exact exists_hasSquareShape hangles hshape
    · rintro ⟨outer, body, hshape⟩
      rw [(hshape.hasShape hangles).parse?_eq]
      exact Option.some_ne_none _
  · intro outer body hshape
    have harguments :=
      arguments_ofParts_map_angled outer.toList (hshape.notAngle hangles).2
    have hparse := (hshape.hasShape hangles).parse?_eq
    rw [String.toList_ofList] at hparse
    refine ⟨_, hparse, rfl, harguments, ?_⟩
    rw [harguments, List.length_map, length_cut_eq_countP, topCommas]

/-- A comma between inner square brackets does not separate arguments, and a text that closes a
bracket too many is no signature. -/
theorem missing_angledText :
    HasNoAngles " Missing[str, Pair[A, B] ]" ∧ HasNoAngles "Missing[str]]" ∧
      HasSquareShape " Missing[str, Pair[A, B] ]" "Missing" "str, Pair[A, B] " ∧
      (∃ signature, parse? (angledText " Missing[str, Pair[A, B] ]") = some signature ∧
        signature.outer = "Missing" ∧ signature.arguments = ["str", "Pair<A, B>"]) ∧
      ∀ outer body, ¬ HasSquareShape "Missing[str]]" outer body := by
  have hangles : HasNoAngles " Missing[str, Pair[A, B] ]" := ⟨by decide, by decide⟩
  have hother : HasNoAngles "Missing[str]]" := ⟨by decide, by decide⟩
  have hshape : HasSquareShape " Missing[str, Pair[A, B] ]" "Missing" "str, Pair[A, B] " :=
    ⟨by decide, by decide, by decide, by decide, by decide⟩
  obtain ⟨signature, hparse, houter, harguments, -⟩ := (angledText_grammar _ hangles).2 _ _ hshape
  refine ⟨hangles, hother, hshape,
    ⟨signature, hparse, houter.trans (by decide), harguments.trans (by decide)⟩, ?_⟩
  intro outer body hwrong
  exact (angledText_grammar _ hother).1.mpr ⟨outer, body, hwrong⟩ (by decide)

end Signature

end RecordDocs
