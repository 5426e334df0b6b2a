import RecordDocs.Proofs.Brackets
import RecordDocs.Signature

/-!
# The grammar of signatures

A text is a signature with arguments if, trimmed, it is an outer name without angle brackets and
behind it a balanced text between angle brackets. The arguments are the pieces of that text between
the commas outside its own brackets.
-/

namespace RecordDocs

namespace Signature

open Brackets Text

variable {chars body : List Char} {depth : Nat} {char : Char} {rest : List Char}
  {pieces : List (List Char)}

/-! ### The scan -/

theorem weight_opening_angle : angles.weight '<' = 1 := weight_opening

theorem weight_closing_angle : angles.weight '>' = -1 := weight_closing

/-- A character that does not close the list changes the number of open brackets by its weight and
either ends a piece or goes in front of the next one. -/
theorem exists_cutArguments_cons_eq (hopen : ¬ (char = '>' ∧ depth = 0)) (rest : List Char) :
    ∃ next : Nat, (next : Int) = depth + angles.weight char ∧
      cutArguments depth (char :: rest) = (cutArguments next rest).map fun pieces =>
        if isTopComma (char, depth) then [] :: pieces else consPiece char pieces := by
  have htop : ∀ other, other ≠ ',' → isTopComma (other, depth) = false := by
    intro other hne
    simp [isTopComma, hne]
  rw [cutArguments.eq_def]
  dsimp only
  by_cases hopening : char = '<'
  · subst hopening
    refine ⟨depth + 1, by rw [weight_opening_angle]; rfl, ?_⟩
    simp [htop]
  · rw [if_neg hopening]
    by_cases hclosing : char = '>'
    · subst hclosing
      obtain ⟨next, rfl⟩ := Nat.exists_eq_succ_of_ne_zero fun hzero => hopen ⟨rfl, hzero⟩
      refine ⟨next, by rw [weight_closing_angle]; omega, ?_⟩
      rw [htop '>' (by decide)]
      rfl
    · have hweight : angles.weight char = 0 := weight_other hopening hclosing
      refine ⟨depth, by rw [hweight, Int.add_zero], ?_⟩
      rw [if_neg hclosing]
      by_cases hcomma : char = ',' ∧ depth = 0
      · obtain ⟨rfl, rfl⟩ := hcomma
        rfl
      · have hinner : isTopComma (char, depth) = false := by
          simpa [isTopComma] using hcomma
        rw [if_neg hcomma, hinner]
        rfl

/-- A list of arguments is closed by a last bracket, behind a text that is balanced if the open
inner brackets are counted. -/
theorem exists_balancedFrom_of_cutArguments (h : cutArguments depth chars = some pieces) :
    ∃ body, chars = body ++ ['>'] ∧ angles.BalancedFrom depth body := by
  induction chars generalizing depth pieces with
  | nil => cases h
  | cons char rest ih =>
      by_cases hlast : char = '>' ∧ depth = 0
      · obtain ⟨rfl, rfl⟩ := hlast
        cases rest with
        | nil => exact ⟨[], rfl, balancedFrom_nil.mpr rfl⟩
        | cons other rest => cases h
      · obtain ⟨next, hnext, hstep⟩ := exists_cutArguments_cons_eq hlast rest
        rw [hstep] at h
        obtain ⟨tail, htail, _⟩ := Option.map_eq_some_iff.mp h
        obtain ⟨body, rfl, hbalanced⟩ := ih htail
        rw [hnext] at hbalanced
        exact ⟨char :: body, rfl, balancedFrom_cons.mpr ⟨Int.natCast_nonneg depth, hbalanced⟩⟩

theorem cutArguments_of_balancedFrom (h : angles.BalancedFrom depth body) :
    cutArguments depth (body ++ ['>']) = some (angles.cut depth body) := by
  induction body generalizing depth with
  | nil =>
      obtain rfl : depth = 0 := Int.natCast_eq_zero.mp (balancedFrom_nil.mp h)
      rfl
  | cons char rest ih =>
      obtain ⟨_, hrest⟩ := balancedFrom_cons.mp h
      have hlast : ¬ (char = '>' ∧ depth = 0) := by
        rintro ⟨rfl, rfl⟩
        have hnonneg := hrest.nonneg
        rw [weight_closing_angle] at hnonneg
        omega
      obtain ⟨next, hnext, hstep⟩ := exists_cutArguments_cons_eq hlast (rest ++ ['>'])
      rw [← hnext] at hrest
      obtain ⟨first, others, hcut, _⟩ := exists_cut_eq_cons hrest
      rw [List.cons_append, hstep, ih hrest, cut_cons, ← hnext, hcut]
      rfl

/-! ### Whole signatures -/

theorem forall_ne_opening {outer : List Char} (h : '<' ∉ outer) :
    ∀ char ∈ outer, decide (char ≠ '<') = true := by
  intro char hchar
  refine decide_eq_true ?_
  rintro rfl
  exact h hchar

def ofParts (outer body : List Char) : Signature where
  outer := String.ofList (trim outer)
  arguments := (angles.cut 0 body).map fun piece => String.ofList (trim piece)

theorem parseChars?_of_parts {outer : List Char} (hne : outer ≠ []) (hopening : '<' ∉ outer)
    (hclosing : '>' ∉ outer) (hbalanced : angles.Balanced body) :
    parseChars? (outer ++ '<' :: (body ++ ['>'])) = some (ofParts outer body) := by
  have hcut : cutArguments 0 (body ++ ['>']) = some (angles.cut 0 body) :=
    cutArguments_of_balancedFrom (balanced_iff.mp hbalanced)
  have htake : (outer ++ '<' :: (body ++ ['>'])).takeWhile (· ≠ '<') = outer := by
    rw [List.takeWhile_append_of_pos (forall_ne_opening hopening)]
    simp
  have hdrop : (outer ++ '<' :: (body ++ ['>'])).dropWhile (· ≠ '<') = '<' :: (body ++ ['>']) := by
    rw [List.dropWhile_append_of_pos (forall_ne_opening hopening)]
    simp
  rw [parseChars?, htake, hdrop]
  simp [hne, hclosing, hcut, ofParts]

theorem exists_parts_of_parseChars? {signature : Signature}
    (h : parseChars? chars = some signature) :
    ∃ outer body, chars = outer ++ '<' :: (body ++ ['>']) ∧ outer ≠ [] ∧ '<' ∉ outer ∧
      '>' ∉ outer ∧ angles.Balanced body := by
  rw [parseChars?] at h
  split at h
  · cases h
  · rename_i opening rest hdrop
    obtain rfl : opening = '<' := by
      have hhead := List.head?_dropWhile_not (fun char => decide (char ≠ '<')) chars
      rw [hdrop] at hhead
      simpa using hhead
    split at h
    · cases h
    · rename_i houter
      simp only [Bool.or_eq_true, List.isEmpty_iff, List.contains_iff_mem, not_or] at houter
      obtain ⟨pieces, hpieces, _⟩ := Option.map_eq_some_iff.mp h
      obtain ⟨body, rfl, hbalanced⟩ := exists_balancedFrom_of_cutArguments hpieces
      refine ⟨_, body, ?_, houter.1, ?_, houter.2, balanced_iff.mpr hbalanced⟩
      · rw [← hdrop, List.takeWhile_append_dropWhile]
      · intro hmem
        simpa using List.all_eq_true.mp List.all_takeWhile _ hmem

/-! ### Texts -/

structure HasShape (text outer body : String) : Prop where
  strip_eq : strip text = outer ++ "<" ++ body ++ ">"
  outer_ne_empty : outer ≠ ""
  opening_not_mem : '<' ∉ outer.toList
  closing_not_mem : '>' ∉ outer.toList
  balanced : angles.Balanced body.toList

variable {text outer : String} {signature : Signature}

theorem strip_eq_iff {body : String} :
    strip text = outer ++ "<" ++ body ++ ">" ↔
      trim text.toList = outer.toList ++ '<' :: (body.toList ++ ['>']) := by
  rw [← String.toList_inj, strip, String.toList_ofList]
  simp

theorem HasShape.parse?_eq {body : String} (h : HasShape text outer body) :
    parse? text = some (ofParts outer.toList body.toList) := by
  rw [parse?, strip_eq_iff.mp h.strip_eq]
  exact parseChars?_of_parts (by simpa using h.outer_ne_empty) h.opening_not_mem
    h.closing_not_mem h.balanced

theorem exists_hasShape_of_parse? (h : parse? text = some signature) :
    ∃ outer body, HasShape text outer body := by
  obtain ⟨outer, body, hchars, hne, hopening, hclosing, hbalanced⟩ :=
    exists_parts_of_parseChars? h
  refine ⟨String.ofList outer, String.ofList body, ?_, by simpa using hne, ?_, ?_, ?_⟩
  · rw [strip_eq_iff, hchars]
    simp
  · simpa using hopening
  · simpa using hclosing
  · simpa using hbalanced

theorem HasShape.strip_outer_ne_empty {body : String} (h : HasShape text outer body) :
    strip outer ≠ "" := by
  obtain ⟨first, rest, houter⟩ := List.exists_cons_of_ne_nil
    (show outer.toList ≠ [] by simpa using h.outer_ne_empty)
  have hfirst : isBlank first = false := by
    refine not_isBlank_head?_trim text.toList first ?_
    rw [strip_eq_iff.mp h.strip_eq, houter]
    rfl
  have htrim : trim outer.toList ≠ [] := trim_ne_nil (houter ▸ List.mem_cons_self) hfirst
  rw [strip]
  simpa using htrim

/-- **The grammar of signatures.** A text is read as a signature exactly if, trimmed, it is an outer
name that is not empty and has no angle brackets, an opening bracket, a balanced text, and a closing
bracket. Then the outer name that is read is the one in the text, trimmed and never empty, and the
arguments are the trimmed pieces of the balanced text between just those commas that are outside its
brackets; there is one argument more than there are such commas. -/
theorem parse?_iff_hasShape (text : String) :
    (parse? text ≠ none ↔ ∃ outer body, HasShape text outer body) ∧
    ∀ outer body, HasShape text outer body →
      ∃ signature, parse? text = some signature ∧
        signature.outer = strip outer ∧ signature.outer ≠ "" ∧
        signature.arguments
          = (angles.cut 0 body.toList).map (fun piece => strip (String.ofList piece)) ∧
        signature.arguments.length = angles.topCommas body.toList + 1 := by
  constructor
  · constructor
    · intro hsome
      obtain ⟨signature, hsignature⟩ := Option.ne_none_iff_exists'.mp hsome
      exact exists_hasShape_of_parse? hsignature
    · rintro ⟨outer, body, hshape⟩
      rw [hshape.parse?_eq]
      exact Option.some_ne_none _
  · intro outer body hshape
    refine ⟨_, hshape.parse?_eq, rfl, hshape.strip_outer_ne_empty, ?_, ?_⟩
    · simp [ofParts, strip]
    · rw [ofParts, List.length_map, length_cut_eq_countP, topCommas]

/-- A comma between inner brackets does not separate arguments, and a list with nothing in it is one
empty argument. -/
theorem map_hasShape :
    HasShape " Map<Key, Pair<A,B> >" "Map" "Key, Pair<A,B> " ∧
      HasShape "Marker<>" "Marker" "" ∧
      (∃ signature, parse? " Map<Key, Pair<A,B> >" = some signature ∧
        signature.outer = "Map" ∧ signature.arguments = ["Key", "Pair<A,B>"]) ∧
      ∃ signature, parse? "Marker<>" = some signature ∧ signature.arguments = [""] := by
  have hmap : HasShape " Map<Key, Pair<A,B> >" "Map" "Key, Pair<A,B> " :=
    ⟨by decide, by decide, by decide, by decide, by decide⟩
  have hmarker : HasShape "Marker<>" "Marker" "" :=
    ⟨by decide, by decide, by decide, by decide, by decide⟩
  obtain ⟨signature, hparse, houter, _, harguments, _⟩ :=
    (parse?_iff_hasShape " Map<Key, Pair<A,B> >").2 _ _ hmap
  obtain ⟨marker, hparseMarker, _, _, hargumentsMarker, _⟩ :=
    (parse?_iff_hasShape "Marker<>").2 _ _ hmarker
  exact ⟨hmap, hmarker, ⟨signature, hparse, houter.trans (by decide), harguments.trans (by decide)⟩,
    marker, hparseMarker, hargumentsMarker.trans (by decide)⟩

end Signature

end RecordDocs
