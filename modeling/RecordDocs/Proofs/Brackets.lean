import Mathlib.Data.List.Infix
import RecordDocs.Text.Blank

/-!
# Brackets and the commas outside them

A text is balanced when no front of it closes more brackets than it opens and the whole of it closes
as many as it opens. Cutting a text at the commas outside its brackets gives one piece more than
there are such commas, and the pieces of a balanced text are balanced texts without such commas; a
text put together from pieces like these is cut into just these again.

A run through a text carries along how many brackets are open already, so the notions have a second
form that starts from any such number.
-/

namespace RecordDocs

open Text

structure Brackets where
  opening : Char
  closing : Char
  opening_ne_closing : opening ≠ closing := by decide
  opening_ne_comma : opening ≠ ',' := by decide
  closing_ne_comma : closing ≠ ',' := by decide
  opening_not_blank : isBlank opening = false := by decide
  closing_not_blank : isBlank closing = false := by decide

namespace Brackets

def angles : Brackets where
  opening := '<'
  closing := '>'

variable (brackets : Brackets)

def depth (chars : List Char) : Int :=
  chars.count brackets.opening - chars.count brackets.closing

def Balanced (chars : List Char) : Prop :=
  (∀ front, front <+: chars → 0 ≤ brackets.depth front) ∧ brackets.depth chars = 0

/-- Every character with the number of brackets that are open in front of it, if there are some open
before the text. -/
def withDepths (before : Int) (chars : List Char) : List (Char × Int) :=
  chars.zip (chars.inits.map fun front => before + brackets.depth front)

def isTopComma (entry : Char × Int) : Bool :=
  entry.1 = ',' && entry.2 = 0

def topCommas (chars : List Char) : Nat :=
  (brackets.withDepths 0 chars).countP isTopComma

/-- The pieces between the commas outside the brackets. -/
def cut (before : Int) (chars : List Char) : List (List Char) :=
  ((brackets.withDepths before chars).splitOnP isTopComma).map fun piece => piece.map Prod.fst

/-! ### Depth -/

def weight (char : Char) : Int :=
  brackets.depth [char]

variable {brackets} {chars front rest : List Char} {char : Char} {before : Int}

@[simp]
theorem depth_nil : brackets.depth [] = 0 := rfl

theorem depth_append (front rest : List Char) :
    brackets.depth (front ++ rest) = brackets.depth front + brackets.depth rest := by
  simp only [depth, List.count_append]
  omega

theorem depth_cons (char : Char) (rest : List Char) :
    brackets.depth (char :: rest) = brackets.weight char + brackets.depth rest :=
  depth_append [char] rest

theorem weight_opening : brackets.weight brackets.opening = 1 := by
  simp [weight, depth, brackets.opening_ne_closing]

theorem weight_closing : brackets.weight brackets.closing = -1 := by
  simp [weight, depth, brackets.opening_ne_closing.symm]

theorem weight_other (hopening : char ≠ brackets.opening) (hclosing : char ≠ brackets.closing) :
    brackets.weight char = 0 := by
  simp [weight, depth, hopening, hclosing]

theorem weight_comma : brackets.weight ',' = 0 :=
  weight_other brackets.opening_ne_comma.symm brackets.closing_ne_comma.symm

theorem weight_of_blank (h : isBlank char = true) : brackets.weight char = 0 := by
  refine weight_other ?_ ?_
  · rintro rfl
    simp [brackets.opening_not_blank] at h
  · rintro rfl
    simp [brackets.closing_not_blank] at h

theorem depth_of_blanks (h : ∀ char ∈ chars, isBlank char = true) : brackets.depth chars = 0 := by
  induction chars with
  | nil => rfl
  | cons char rest ih =>
      rw [List.forall_mem_cons] at h
      rw [depth_cons, weight_of_blank h.1, ih h.2, Int.add_zero]

theorem depth_of_not_mem (hopening : brackets.opening ∉ chars)
    (hclosing : brackets.closing ∉ chars) : brackets.depth chars = 0 := by
  rw [depth, List.count_eq_zero.mpr hopening, List.count_eq_zero.mpr hclosing]
  rfl

@[simp]
theorem withDepths_nil : brackets.withDepths before [] = [] := rfl

theorem withDepths_cons (char : Char) (rest : List Char) :
    brackets.withDepths before (char :: rest)
      = (char, before) :: brackets.withDepths (before + brackets.weight char) rest := by
  have hinits : (rest.inits.map (List.cons char)).map (fun front => before + brackets.depth front)
      = rest.inits.map fun front => before + brackets.weight char + brackets.depth front := by
    rw [List.map_map]
    refine List.map_congr_left fun front _ => ?_
    rw [Function.comp_apply, depth_cons, Int.add_assoc]
  rw [withDepths, List.inits_cons, List.map_cons, List.zip_cons_cons, hinits, depth_nil,
    Int.add_zero, withDepths]

theorem withDepths_append (front rest : List Char) :
    brackets.withDepths before (front ++ rest)
      = brackets.withDepths before front
        ++ brackets.withDepths (before + brackets.depth front) rest := by
  induction front generalizing before with
  | nil => simp
  | cons char front ih =>
      rw [List.cons_append, withDepths_cons, withDepths_cons, ih, depth_cons, ← Int.add_assoc,
        List.cons_append]

theorem map_fst_withDepths (before : Int) (chars : List Char) :
    (brackets.withDepths before chars).map Prod.fst = chars := by
  induction chars generalizing before with
  | nil => rfl
  | cons char rest ih => rw [withDepths_cons, List.map_cons, ih]

/-! ### Balance -/

/-- The text closes no bracket that is not open, and leaves none open, if some are open before. -/
def BalancedFrom (brackets : Brackets) (before : Int) (chars : List Char) : Prop :=
  (∀ front, front <+: chars → 0 ≤ before + brackets.depth front) ∧
    before + brackets.depth chars = 0

theorem balanced_iff : brackets.Balanced chars ↔ brackets.BalancedFrom 0 chars := by
  simp [Balanced, BalancedFrom]

instance : DecidablePred brackets.Balanced := fun chars =>
  decidable_of_iff
    ((∀ front ∈ chars.inits, 0 ≤ brackets.depth front) ∧ brackets.depth chars = 0) <| by
      simp only [List.mem_inits, Balanced]

theorem balancedFrom_nil : brackets.BalancedFrom before [] ↔ before = 0 := by
  simp [BalancedFrom]
  omega

theorem balancedFrom_cons :
    brackets.BalancedFrom before (char :: rest)
      ↔ 0 ≤ before ∧ brackets.BalancedFrom (before + brackets.weight char) rest := by
  simp only [BalancedFrom, depth_cons, ← Int.add_assoc]
  constructor
  · rintro ⟨hfronts, hwhole⟩
    refine ⟨by simpa using hfronts [] List.nil_prefix, fun front hfront => ?_, hwhole⟩
    have hlonger := hfronts (char :: front) (List.cons_prefix_cons.mpr ⟨rfl, hfront⟩)
    rwa [depth_cons, ← Int.add_assoc] at hlonger
  · rintro ⟨hbefore, hfronts, hwhole⟩
    refine ⟨fun front hfront => ?_, hwhole⟩
    rcases List.prefix_cons_iff.mp hfront with rfl | ⟨shorter, rfl, hshorter⟩
    · simpa using hbefore
    · rw [depth_cons, ← Int.add_assoc]
      exact hfronts shorter hshorter

theorem BalancedFrom.nonneg (h : brackets.BalancedFrom before chars) : 0 ≤ before := by
  simpa using h.1 [] List.nil_prefix

theorem BalancedFrom.append (hfront : brackets.BalancedFrom before front)
    (hrest : brackets.BalancedFrom 0 rest) : brackets.BalancedFrom before (front ++ rest) := by
  induction front generalizing before with
  | nil => rwa [balancedFrom_nil.mp hfront]
  | cons char front ih =>
      obtain ⟨hbefore, hfront⟩ := balancedFrom_cons.mp hfront
      exact balancedFrom_cons.mpr ⟨hbefore, ih hfront⟩

theorem BalancedFrom.of_append (h : brackets.BalancedFrom before (front ++ rest))
    (hrest : brackets.depth rest = 0) : brackets.BalancedFrom before front := by
  obtain ⟨hfronts, hwhole⟩ := h
  refine ⟨fun shorter hshorter => hfronts shorter (hshorter.trans (List.prefix_append _ _)), ?_⟩
  rwa [depth_append, hrest, Int.add_zero] at hwhole

theorem balanced_of_not_mem (hopening : brackets.opening ∉ chars)
    (hclosing : brackets.closing ∉ chars) : brackets.Balanced chars := by
  refine ⟨fun front hfront => ?_, depth_of_not_mem hopening hclosing⟩
  have hdepth : brackets.depth front = 0 :=
    depth_of_not_mem (fun hmem => hopening (hfront.subset hmem))
      fun hmem => hclosing (hfront.subset hmem)
  omega

/-! ### Pieces -/

/-- The text is balanced and has no comma outside its brackets, if some are open before it. -/
structure IsPiece (brackets : Brackets) (before : Int) (chars : List Char) : Prop where
  balanced : brackets.BalancedFrom before chars
  no_top_comma : ∀ entry ∈ brackets.withDepths before chars, isTopComma entry = false

theorem isPiece_iff :
    brackets.IsPiece 0 chars ↔ brackets.Balanced chars ∧ brackets.topCommas chars = 0 := by
  rw [balanced_iff, topCommas, List.countP_eq_zero]
  simp only [Bool.not_eq_true]
  exact ⟨fun h => ⟨h.balanced, h.no_top_comma⟩, fun h => ⟨h.1, h.2⟩⟩

theorem isPiece_nil : brackets.IsPiece before [] ↔ before = 0 :=
  ⟨fun h => balancedFrom_nil.mp h.balanced, fun h => ⟨balancedFrom_nil.mpr h, by simp⟩⟩

theorem isPiece_cons :
    brackets.IsPiece before (char :: rest) ↔
      0 ≤ before ∧ isTopComma (char, before) = false ∧
        brackets.IsPiece (before + brackets.weight char) rest := by
  constructor
  · rintro ⟨hbalanced, hcommas⟩
    rw [withDepths_cons, List.forall_mem_cons] at hcommas
    obtain ⟨hbefore, hrest⟩ := balancedFrom_cons.mp hbalanced
    exact ⟨hbefore, hcommas.1, hrest, hcommas.2⟩
  · rintro ⟨hbefore, hchar, hrest, hcommas⟩
    refine ⟨balancedFrom_cons.mpr ⟨hbefore, hrest⟩, ?_⟩
    rw [withDepths_cons, List.forall_mem_cons]
    exact ⟨hchar, hcommas⟩

theorem isPiece_cons_of_blank (hblank : isBlank char = true) :
    brackets.IsPiece before (char :: rest) ↔ brackets.IsPiece before rest := by
  have hcomma : char ≠ ',' := by
    rintro rfl
    exact absurd hblank (by decide)
  rw [isPiece_cons, weight_of_blank hblank, Int.add_zero]
  constructor
  · rintro ⟨_, _, hrest⟩
    exact hrest
  · intro hrest
    exact ⟨hrest.balanced.nonneg, by simp [isTopComma, hcomma], hrest⟩

theorem IsPiece.of_blanks_append (hblanks : ∀ char ∈ front, isBlank char = true)
    (h : brackets.IsPiece before (front ++ chars)) : brackets.IsPiece before chars := by
  induction front with
  | nil => exact h
  | cons char front ih =>
      rw [List.forall_mem_cons] at hblanks
      exact ih hblanks.2 ((isPiece_cons_of_blank hblanks.1).mp h)

theorem IsPiece.of_append_blanks (hblanks : ∀ char ∈ rest, isBlank char = true)
    (h : brackets.IsPiece before (chars ++ rest)) : brackets.IsPiece before chars := by
  refine ⟨h.balanced.of_append (depth_of_blanks hblanks), fun entry hentry => ?_⟩
  refine h.no_top_comma entry ?_
  rw [withDepths_append]
  exact List.mem_append_left _ hentry

theorem IsPiece.trim (h : brackets.IsPiece before chars) :
    brackets.IsPiece before (trim chars) := by
  obtain ⟨front, back, hfront, hback, hchars⟩ := exists_blanks_append_trim chars
  rw [hchars, List.append_assoc] at h
  exact (h.of_blanks_append hfront).of_append_blanks hback

theorem IsPiece.append (hfront : brackets.IsPiece before front)
    (hrest : brackets.IsPiece 0 rest) : brackets.IsPiece before (front ++ rest) := by
  refine ⟨hfront.balanced.append hrest.balanced, fun entry hentry => ?_⟩
  rw [withDepths_append, hfront.balanced.2, List.mem_append] at hentry
  exact hentry.elim (hfront.no_top_comma entry) (hrest.no_top_comma entry)

theorem isPiece_of_forall_ne (h : ∀ char ∈ chars,
    char ≠ brackets.opening ∧ char ≠ brackets.closing ∧ char ≠ ',') :
    brackets.IsPiece 0 chars := by
  induction chars with
  | nil => exact isPiece_nil.mpr rfl
  | cons char rest ih =>
      rw [List.forall_mem_cons] at h
      obtain ⟨⟨hopening, hclosing, hcomma⟩, hrest⟩ := h
      rw [isPiece_cons, weight_other hopening hclosing]
      exact ⟨Int.le_refl 0, by simp [isTopComma, hcomma], ih hrest⟩

/-- Behind one more open bracket no comma of a balanced text is outside the brackets. -/
theorem BalancedFrom.isPiece_append_closing (h : brackets.BalancedFrom before chars) :
    brackets.IsPiece (before + 1) (chars ++ [brackets.closing]) := by
  induction chars generalizing before with
  | nil =>
      rw [balancedFrom_nil.mp h]
      refine isPiece_cons.mpr ⟨by omega, by simp [isTopComma], isPiece_nil.mpr ?_⟩
      rw [weight_closing]
      omega
  | cons char rest ih =>
      have hbefore := h.nonneg
      obtain ⟨-, hrest⟩ := balancedFrom_cons.mp h
      refine isPiece_cons.mpr ⟨by omega, ?_, ?_⟩
      · have hinner : before + 1 ≠ 0 := by omega
        simp [isTopComma, hinner]
      · rw [Int.add_right_comm]
        exact ih hrest

theorem BalancedFrom.isPiece_enclosed (h : brackets.BalancedFrom 0 chars) :
    brackets.IsPiece 0 (brackets.opening :: (chars ++ [brackets.closing])) := by
  refine isPiece_cons.mpr ⟨Int.le_refl 0, ?_, ?_⟩
  · simp [isTopComma, brackets.opening_ne_comma]
  · rw [weight_opening]
    exact h.isPiece_append_closing

/-! ### Cutting -/

theorem cut_cons :
    brackets.cut before (char :: rest)
      = if isTopComma (char, before) then [] :: brackets.cut (before + brackets.weight char) rest
        else (brackets.cut (before + brackets.weight char) rest).modifyHead (List.cons char) := by
  rw [cut, cut, withDepths_cons, List.splitOnP_cons_eq_if_modifyHead]
  split
  · rfl
  · obtain ⟨first, others, hsplit⟩ := List.exists_cons_of_ne_nil (List.splitOnP_ne_nil isTopComma
      (brackets.withDepths (before + brackets.weight char) rest))
    rw [hsplit]
    rfl

theorem length_cut_eq_countP (before : Int) (chars : List Char) :
    (brackets.cut before chars).length
      = (brackets.withDepths before chars).countP isTopComma + 1 := by
  induction chars generalizing before with
  | nil => rfl
  | cons char rest ih =>
      rw [cut_cons, withDepths_cons, List.countP_cons]
      split <;> simp [ih]

theorem exists_cut_eq_cons (h : brackets.BalancedFrom before chars) :
    ∃ first others, brackets.cut before chars = first :: others ∧
      brackets.IsPiece before first ∧ ∀ piece ∈ others, brackets.IsPiece 0 piece := by
  induction chars generalizing before with
  | nil => exact ⟨[], [], rfl, isPiece_nil.mpr (balancedFrom_nil.mp h), by simp⟩
  | cons char rest ih =>
      obtain ⟨hbefore, hrest⟩ := balancedFrom_cons.mp h
      obtain ⟨first, others, hcut, hfirst, hothers⟩ := ih hrest
      rw [cut_cons, hcut]
      cases hcomma : isTopComma (char, before) with
      | true =>
          obtain ⟨rfl, rfl⟩ : char = ',' ∧ before = 0 := by simpa [isTopComma] using hcomma
          rw [weight_comma] at hfirst
          exact ⟨[], first :: others, rfl, isPiece_nil.mpr rfl,
            List.forall_mem_cons.mpr ⟨hfirst, hothers⟩⟩
      | false =>
          exact ⟨char :: first, others, rfl, isPiece_cons.mpr ⟨hbefore, hcomma, hfirst⟩, hothers⟩

theorem isPiece_of_mem_cut (h : brackets.Balanced chars) {piece : List Char}
    (hpiece : piece ∈ brackets.cut 0 chars) : brackets.IsPiece 0 piece := by
  obtain ⟨first, others, hcut, hfirst, hothers⟩ := exists_cut_eq_cons (balanced_iff.mp h)
  rw [hcut, List.mem_cons] at hpiece
  rcases hpiece with rfl | hmem
  · exact hfirst
  · exact hothers piece hmem

theorem IsPiece.cut_eq (h : brackets.IsPiece before chars) :
    brackets.cut before chars = [chars] := by
  rw [cut, List.splitOnP_eq_singleton h.no_top_comma, List.map_singleton, map_fst_withDepths]

theorem IsPiece.cut_append_comma (h : brackets.IsPiece before front) (rest : List Char) :
    brackets.cut before (front ++ ',' :: rest) = front :: brackets.cut 0 rest := by
  rw [cut, withDepths_append, h.balanced.2, withDepths_cons, weight_comma,
    List.splitOnP_append_cons_of_forall_mem h.no_top_comma _ rfl, List.map_cons,
    map_fst_withDepths]
  rfl

/-- The first piece starts where the text does, and any other one where no bracket is open. -/
theorem exists_cut_eq_cons_prefix (brackets : Brackets) (before : Int) (chars : List Char) :
    ∃ first others, brackets.cut before chars = first :: others ∧ first <+: chars ∧
      ∀ piece ∈ others, ∃ front, front ++ piece <+: chars ∧ before + brackets.depth front = 0 := by
  induction chars generalizing before with
  | nil => exact ⟨[], [], rfl, List.prefix_rfl, by simp⟩
  | cons char rest ih =>
      obtain ⟨first, others, hcut, hfirst, hothers⟩ := ih (before + brackets.weight char)
      have hshift : ∀ piece ∈ others, ∃ front, front ++ piece <+: char :: rest ∧
          before + brackets.depth front = 0 := by
        intro piece hpiece
        obtain ⟨front, hfront, hdepth⟩ := hothers piece hpiece
        refine ⟨char :: front, List.cons_prefix_cons.mpr ⟨rfl, hfront⟩, ?_⟩
        rw [depth_cons, ← Int.add_assoc, hdepth]
      rw [cut_cons, hcut]
      cases hcomma : isTopComma (char, before) with
      | true =>
          obtain ⟨rfl, rfl⟩ : char = ',' ∧ before = 0 := by simpa [isTopComma] using hcomma
          refine ⟨[], first :: others, rfl, List.nil_prefix, List.forall_mem_cons.mpr ⟨?_, hshift⟩⟩
          refine ⟨[','], List.cons_prefix_cons.mpr ⟨rfl, hfirst⟩, ?_⟩
          rw [depth_cons, weight_comma, depth_nil]
          rfl
      | false =>
          exact ⟨char :: first, others, rfl, List.cons_prefix_cons.mpr ⟨rfl, hfirst⟩, hshift⟩

theorem exists_front_of_mem_cut {piece : List Char} (h : piece ∈ brackets.cut 0 chars) :
    ∃ front, front ++ piece <+: chars ∧ brackets.depth front = 0 := by
  obtain ⟨first, others, hcut, hfirst, hothers⟩ := exists_cut_eq_cons_prefix brackets 0 chars
  rw [hcut, List.mem_cons] at h
  rcases h with rfl | hmem
  · exact ⟨[], hfirst, depth_nil⟩
  · obtain ⟨front, hfront, hdepth⟩ := hothers piece hmem
    exact ⟨front, hfront, by rwa [Int.zero_add] at hdepth⟩

/-- Pieces with a comma and a blank between them make a balanced text, which is cut into the first
piece and the others with the blank in front. -/
theorem cut_intercalate {first : List Char} {others : List (List Char)}
    (hfirst : brackets.IsPiece 0 first) (hothers : ∀ piece ∈ others, brackets.IsPiece 0 piece) :
    brackets.BalancedFrom 0 ([',', ' '].intercalate (first :: others)) ∧
      brackets.cut 0 ([',', ' '].intercalate (first :: others))
        = first :: others.map (List.cons ' ') := by
  induction others generalizing first with
  | nil =>
      rw [List.intercalate_singleton]
      exact ⟨hfirst.balanced, hfirst.cut_eq⟩
  | cons second others ih =>
      rw [List.forall_mem_cons] at hothers
      have hsecond : brackets.IsPiece 0 (' ' :: second) :=
        (isPiece_cons_of_blank (by decide)).mpr hothers.1
      obtain ⟨hbalanced, hcut⟩ := ih hsecond hothers.2
      have hjoin : [',', ' '].intercalate (first :: second :: others)
          = first ++ ',' :: [',', ' '].intercalate ((' ' :: second) :: others) := by simp
      rw [hjoin]
      constructor
      · refine hfirst.balanced.append (balancedFrom_cons.mpr ⟨Int.le_refl 0, ?_⟩)
        rwa [weight_comma, Int.add_zero]
      · rw [hfirst.cut_append_comma, hcut]
        rfl

end Brackets

end RecordDocs
