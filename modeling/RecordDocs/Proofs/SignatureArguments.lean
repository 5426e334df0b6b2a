import RecordDocs.Proofs.ReferenceLaws
import RecordDocs.Text.Identifier

/-!
# Texts that stand as arguments

A text is kept as it is when it stands as an argument of a signature if it is trimmed, balanced and
without a comma outside its brackets. Names are such texts, and so is a signature whose head is a
name and whose arguments are such texts; so signatures can be put into each other to any depth, and
are still cut at the commas between the outermost arguments.

Where all known names are names by this rule, a signature refers to just those of its arguments that
are known.
-/

namespace RecordDocs

open Brackets Text

variable {known : String → Bool} {text : String} {char : Char}

/-! ### Names -/

def IsName (text : String) : Prop :=
  isIdentifier text.toList = true

instance : DecidablePred IsName :=
  fun _ => inferInstanceAs (Decidable (_ = true))

def canName (char : Char) : Bool :=
  isIdentifierStart char || isIdentifierPart char

theorem IsName.ne_empty (h : IsName text) : text ≠ "" := by
  rintro rfl
  exact absurd h (by decide)

theorem IsName.canName_of_mem (h : IsName text) (hmem : char ∈ text.toList) :
    canName char = true := by
  rw [IsName] at h
  cases hchars : text.toList with
  | nil => simp [hchars] at hmem
  | cons first rest =>
      rw [hchars, isIdentifier, Bool.and_eq_true, List.all_eq_true] at h
      rw [hchars, List.mem_cons] at hmem
      rw [canName, Bool.or_eq_true]
      rcases hmem with rfl | hrest
      · exact Or.inl h.1
      · exact Or.inr (h.2 char hrest)

theorem IsName.not_mem (h : IsName text) (hchar : canName char = false) : char ∉ text.toList := by
  intro hmem
  rw [h.canName_of_mem hmem] at hchar
  cases hchar

def blankCodes : List Nat :=
  List.range' 9 5 ++ List.range' 28 5 ++ [0x85, 0xA0, 0x1680] ++ List.range' 0x2000 11
    ++ [0x2028, 0x2029, 0x202F, 0x205F, 0x3000]

theorem toNat_mem_blankCodes (h : isBlank char = true) : char.toNat ∈ blankCodes := by
  simp only [isBlank, Bool.or_eq_true, Bool.and_eq_true, decide_eq_true_eq, beq_iff_eq] at h
  simp only [blankCodes, List.mem_append, List.mem_range'_1, List.mem_cons, List.not_mem_nil]
  omega

theorem canName_of_isBlank (h : isBlank char = true) : canName char = false := by
  have hcodes : ∀ code ∈ blankCodes, canName (Char.ofNat code) = false := by decide +kernel
  have hchar := hcodes char.toNat (toNat_mem_blankCodes h)
  rwa [Char.ofNat_toNat] at hchar

theorem IsName.isBlank_of_mem (h : IsName text) (hmem : char ∈ text.toList) :
    isBlank char = false := by
  cases hblank : isBlank char with
  | false => rfl
  | true => exact absurd hmem (h.not_mem (canName_of_isBlank hblank))

theorem IsName.strip_eq (h : IsName text) : strip text = text := by
  have htrim : trim text.toList = text.toList :=
    trim_eq_self (fun _ hhead => h.isBlank_of_mem (List.mem_of_mem_head? hhead))
      fun _ hlast => h.isBlank_of_mem (List.mem_of_mem_getLast? hlast)
  rw [strip, htrim, String.ofList_toList]

theorem IsName.isPiece (h : IsName text) : angles.IsPiece 0 text.toList := by
  refine isPiece_of_forall_ne fun char hmem => ⟨?_, ?_, ?_⟩
  · rintro rfl
    exact h.not_mem (by decide) hmem
  · rintro rfl
    exact h.not_mem (by decide) hmem
  · rintro rfl
    exact h.not_mem (by decide) hmem

/-! ### Arguments -/

namespace Signature

variable {signature : Signature}

structure IsArgument (text : String) : Prop where
  strip_eq : strip text = text
  isPiece : angles.IsPiece 0 text.toList

theorem isArgument_of_isName (h : IsName text) : IsArgument text :=
  ⟨h.strip_eq, h.isPiece⟩

structure IsCompound (signature : Signature) : Prop where
  isName_outer : IsName signature.outer
  arguments_ne_nil : signature.arguments ≠ []
  isArgument : ∀ argument ∈ signature.arguments, IsArgument argument

theorem IsCompound.canonical (h : signature.IsCompound) : signature.Canonical where
  outer_ne_empty := h.isName_outer.ne_empty
  strip_outer := h.isName_outer.strip_eq
  opening_not_mem := h.isName_outer.not_mem (by decide)
  closing_not_mem := h.isName_outer.not_mem (by decide)
  arguments_ne_nil := h.arguments_ne_nil
  strip_argument := fun argument hmem => (h.isArgument argument hmem).strip_eq
  balanced := fun argument hmem => (isPiece_iff.mp (h.isArgument argument hmem).isPiece).1
  topCommas_eq_zero := fun argument hmem => (isPiece_iff.mp (h.isArgument argument hmem).isPiece).2

theorem strip_enclosed {head : String} (hhead : IsName head) (body : String) :
    strip (head ++ "<" ++ body ++ ">") = head ++ "<" ++ body ++ ">" := by
  obtain ⟨first, rest, hchars⟩ := List.exists_cons_of_ne_nil
    (show head.toList ≠ [] by simpa using hhead.ne_empty)
  have htrim : trim (head ++ "<" ++ body ++ ">").toList = (head ++ "<" ++ body ++ ">").toList := by
    refine trim_eq_self ?_ ?_
    · simp only [String.toList_append, hchars, List.cons_append, List.head?_cons]
      rintro char ⟨⟩
      exact hhead.isBlank_of_mem (hchars ▸ List.mem_cons_self)
    · rw [String.toList_append, show ">".toList = ['>'] from rfl, List.getLast?_concat]
      rintro char ⟨⟩
      decide
  rw [strip, htrim, String.ofList_toList]

/-- A signature is an argument itself: the commas between its arguments are inside its brackets. -/
theorem IsCompound.isArgument_render (h : signature.IsCompound) : IsArgument signature.render := by
  refine ⟨strip_enclosed h.isName_outer _, ?_⟩
  have hchars : signature.render.toList = signature.outer.toList
      ++ '<' :: ((", ".intercalate signature.arguments).toList ++ ['>']) := by
    simp [render]
  rw [hchars]
  exact h.isName_outer.isPiece.append
    (balanced_iff.mp h.canonical.cut_arguments.1).isPiece_enclosed

theorem not_isName_render (signature : Signature) : ¬ IsName signature.render := by
  intro hname
  refine hname.not_mem (show canName '<' = false by decide) ?_
  simp [render]

end Signature

/-! ### References -/

theorem distinctFrom_eq_eraseDups (seen names : List String) :
    distinctFrom seen names = (names.filter (· ∉ seen)).eraseDups := by
  induction names generalizing seen with
  | nil => rfl
  | cons name rest ih =>
      rw [distinctFrom]
      by_cases hseen : name ∈ seen
      · rw [if_pos hseen, ih, List.filter_cons_of_neg (by simpa using hseen)]
      · rw [if_neg hseen, ih, List.filter_cons_of_pos (by simpa using hseen),
          List.eraseDups_cons, List.filter_filter]
        refine congrArg (fun names => name :: List.eraseDups names) ?_
        refine List.filter_congr fun other _ => ?_
        by_cases heq : other = name <;> simp [heq]

theorem references_eq_eraseDups (hnames : ∀ name, known name = true → IsName name)
    (hwhole : ¬ IsName (strip text)) :
    references known text = ((argumentsOf text).filter known).eraseDups := by
  have hunknown : known (strip text) = false := Bool.eq_false_iff.mpr (mt (hnames _) hwhole)
  rw [references_of_not_known hunknown, ← distinctFrom_filter fun _ _ => Iff.rfl,
    distinctFrom_eq_eraseDups, List.filter_filter]
  refine congrArg List.eraseDups (List.filter_congr fun argument _ => ?_)
  cases hknown : known argument with
  | false => simp
  | true => simpa using (hnames _ hknown).ne_empty

theorem references_render {signature : Signature} (hnames : ∀ name, known name = true → IsName name)
    (h : signature.Canonical) :
    references known signature.render = (signature.arguments.filter known).eraseDups := by
  have hstrip : strip signature.render = signature.render := by
    rw [h.hasShape.strip_eq, Signature.render]
  have harguments : argumentsOf signature.render = signature.arguments := by
    rw [argumentsOf, h.parse?_render]
    rfl
  have hwhole : ¬ IsName (strip signature.render) := by
    rw [hstrip]
    exact signature.not_isName_render
  rw [references_eq_eraseDups hnames hwhole, harguments]

end RecordDocs
