import RecordDocs.Proofs.ReferenceGraph
import RecordDocs.Proofs.SignatureRendering

/-!
# Laws of references

What a signature refers to is a list of known names without repetition, and each of these names
refers to itself. If the whole text is not known, they are those arguments of the signature that are
known, in the order in which they occur first; what stands only inside a bracket of an argument is
no argument.

More known names mean more references, and none is lost or moved, as long as the whole text does not
become a known name itself: then it takes the place of all its arguments.
-/

namespace RecordDocs

open Brackets Signature Text

variable {known other : String → Bool} {text name outer body : String}

/-! ### First occurrences -/

theorem pairwise_idxOf_distinctFrom (seen names : List String) :
    (distinctFrom seen names).Pairwise fun first second =>
      names.idxOf first < names.idxOf second := by
  induction names generalizing seen with
  | nil => exact List.Pairwise.nil
  | cons name rest ih =>
      have hshift : ∀ names : List String, name ∉ names →
          (names.Pairwise fun first second => rest.idxOf first < rest.idxOf second) →
          names.Pairwise fun first second =>
            (name :: rest).idxOf first < (name :: rest).idxOf second := by
        intro names hname hpairwise
        refine hpairwise.imp_of_mem fun hfirst hsecond hlt => ?_
        have hne : ∀ other ∈ names, name ≠ other := fun other hother heq => hname (heq ▸ hother)
        rw [List.idxOf_cons_ne _ (hne _ hfirst), List.idxOf_cons_ne _ (hne _ hsecond)]
        exact Nat.succ_lt_succ hlt
      rw [distinctFrom]
      split
      · rename_i hseen
        exact hshift _ (fun hmem => (mem_distinctFrom.mp hmem).2 hseen) (ih seen)
      · have hnew : name ∉ distinctFrom (name :: seen) rest :=
          fun hmem => (mem_distinctFrom.mp hmem).2 List.mem_cons_self
        refine List.pairwise_cons.mpr ⟨fun later hlater => ?_, hshift _ hnew (ih (name :: seen))⟩
        have hne : name ≠ later := fun heq => hnew (heq ▸ hlater)
        rw [List.idxOf_cons_self, List.idxOf_cons_ne _ hne]
        exact Nat.succ_pos _

theorem distinctFrom_filter {keep : String → Bool} {seen others : List String}
    (h : ∀ name, keep name = true → (name ∈ seen ↔ name ∈ others)) (names : List String) :
    distinctFrom seen (names.filter keep) = (distinctFrom others names).filter keep := by
  induction names generalizing seen others with
  | nil => rfl
  | cons name rest ih =>
      have hcons : ∀ other, keep other = true →
          (other ∈ name :: seen ↔ other ∈ name :: others) := by
        intro other hother
        rw [List.mem_cons, List.mem_cons, h other hother]
      by_cases hkeep : keep name = true
      · rw [List.filter_cons_of_pos hkeep, distinctFrom, distinctFrom]
        by_cases hseen : name ∈ seen
        · rw [if_pos hseen, if_pos ((h name hkeep).mp hseen), ih h]
        · rw [if_neg hseen, if_neg (mt (h name hkeep).mpr hseen), List.filter_cons_of_pos hkeep,
            ih hcons]
      · rw [List.filter_cons_of_neg hkeep, distinctFrom]
        split
        · exact ih h
        · rw [List.filter_cons_of_neg hkeep]
          refine ih fun other hother => ?_
          have hne : other ≠ name := fun heq => hkeep (heq ▸ hother)
          rw [h other hother, List.mem_cons, or_iff_right hne]

/-! ### Arguments -/

namespace Signature

def bodyArguments (body : String) : List String :=
  (angles.cut 0 body.toList).map fun piece => strip (String.ofList piece)

theorem HasShape.argumentsOf_eq (h : HasShape text outer body) :
    argumentsOf text = bodyArguments body := by
  rw [argumentsOf, h.parse?_eq]
  simp [ofParts, bodyArguments, strip]

theorem argumentsOf_eq_nil (h : ¬ ∃ outer body, HasShape text outer body) :
    argumentsOf text = [] := by
  rw [argumentsOf]
  cases hparse : parse? text with
  | none => rfl
  | some signature => exact absurd (exists_hasShape_of_parse? hparse) h

theorem exists_hasShape_of_mem_argumentsOf (h : name ∈ argumentsOf text) :
    ∃ outer body, HasShape text outer body ∧ name ∈ bodyArguments body := by
  by_cases hshape : ∃ outer body, HasShape text outer body
  · obtain ⟨outer, body, hshape⟩ := hshape
    exact ⟨outer, body, hshape, hshape.argumentsOf_eq ▸ h⟩
  · rw [argumentsOf_eq_nil hshape] at h
    cases h

theorem strip_strip (text : String) : strip (strip text) = strip text := by
  rw [strip, strip, String.toList_ofList, trim_trim]

theorem strip_of_mem_bodyArguments (h : name ∈ bodyArguments body) : strip name = name := by
  obtain ⟨piece, -, rfl⟩ := List.mem_map.mp h
  exact strip_strip _

theorem HasShape.exists_front_of_mem (h : HasShape text outer body)
    (hname : name ∈ bodyArguments body) :
    ∃ front, front ++ name.toList <+: (strip text).toList ∧ angles.depth front = 1 := by
  obtain ⟨piece, hpiece, rfl⟩ := List.mem_map.mp hname
  obtain ⟨front, ⟨rest, hrest⟩, hdepth⟩ := exists_front_of_mem_cut hpiece
  obtain ⟨blanks, after, hblanks, -, hpieces⟩ := exists_blanks_append_trim piece
  refine ⟨outer.toList ++ '<' :: (front ++ blanks), ⟨after ++ rest ++ ['>'], ?_⟩, ?_⟩
  · rw [h.strip_eq, String.toList_append, String.toList_append, String.toList_append, ← hrest]
    conv_rhs => rw [hpieces]
    simp [strip]
  · rw [depth_append, depth_cons, depth_append, hdepth, depth_of_blanks hblanks,
      weight_opening_angle, depth_of_not_mem h.opening_not_mem h.closing_not_mem]
    rfl

/-- Wherever the name stands in the text, it stands inside a bracket inside a bracket. -/
def OnlyNested (text name : String) : Prop :=
  ∀ front, front ++ name.toList <+: text.toList → 2 ≤ angles.depth front

instance : Decidable (OnlyNested text name) :=
  decidable_of_iff
    (∀ front ∈ text.toList.inits,
      front ++ name.toList <+: text.toList → 2 ≤ angles.depth front) <| by
      refine ⟨fun h front hfront => h front ?_ hfront, fun h front _ => h front⟩
      exact (List.mem_inits _ _).mpr ((List.prefix_append front name.toList).trans hfront)

end Signature

/-! ### References -/

theorem references_self (hstrip : strip name = name) (hne : name ≠ "")
    (hknown : known name = true) : references known name = [name] := by
  rw [references_eq_ite, hstrip, if_neg hne, if_pos hknown]

theorem strip_ne_empty_of_mem_references (h : name ∈ references known text) :
    strip name = name ∧ name ≠ "" := by
  rw [references_eq_ite] at h
  split at h
  · cases h
  · rename_i hne
    split at h
    · rw [List.mem_singleton.mp h]
      exact ⟨strip_strip text, hne⟩
    · have hmem := (mem_distinctFrom.mp h).1
      simp only [List.mem_filter, Bool.and_eq_true, decide_eq_true_eq] at hmem
      obtain ⟨outer, body, -, hargument⟩ := exists_hasShape_of_mem_argumentsOf hmem.1
      exact ⟨strip_of_mem_bodyArguments hargument, hmem.2.1⟩

theorem argumentsOf_of_blank (h : strip text = "") : argumentsOf text = [] := by
  refine argumentsOf_eq_nil ?_
  rintro ⟨outer, body, hshape⟩
  have hempty := hshape.strip_eq
  rw [h, ← String.toList_inj] at hempty
  simp at hempty

theorem references_of_not_known (hwhole : known (strip text) = false) :
    references known text = (distinctFrom [] (argumentsOf text)).filter
      fun argument => argument ≠ "" && known argument := by
  rw [references_eq_ite, hwhole, ← distinctFrom_filter fun _ _ => Iff.rfl]
  split
  · rename_i hblank
    rw [argumentsOf_of_blank hblank]
    rfl
  · rfl

theorem mem_references_of_not_known (hwhole : known (strip text) = false) :
    name ∈ references known text ↔ name ∈ argumentsOf text ∧ name ≠ "" ∧ known name = true := by
  simp [references_of_not_known hwhole, mem_distinctFrom]

theorem not_mem_references_of_onlyNested (h : OnlyNested (strip text) name) :
    name ∉ references known text := by
  intro hmem
  cases hwhole : known (strip text) with
  | false =>
      obtain ⟨outer, body, hshape, hargument⟩ :=
        exists_hasShape_of_mem_argumentsOf ((mem_references_of_not_known hwhole).mp hmem).1
      obtain ⟨front, hfront, hdepth⟩ := hshape.exists_front_of_mem hargument
      have htwo := h front hfront
      omega
  | true =>
      -- then the name is the whole text, which stands inside no bracket
      rw [references_eq_ite, hwhole] at hmem
      split at hmem
      · cases hmem
      · rw [List.mem_singleton.mp hmem] at h
        have htwo := h [] (by simp)
        simp at htwo

theorem references_eq_filter (hmore : ∀ name, known name = true → other name = true)
    (hwhole : other (strip text) = true → known (strip text) = true) :
    references known text = (references other text).filter known := by
  cases hknown : known (strip text) with
  | true =>
      rw [references_eq_ite, references_eq_ite, hknown, hmore _ hknown]
      split
      · rfl
      · simp [hknown]
  | false =>
      have hother : other (strip text) = false :=
        Bool.eq_false_iff.mpr fun h => Bool.eq_false_iff.mp hknown (hwhole h)
      rw [references_of_not_known hknown, references_of_not_known hother, List.filter_filter]
      refine List.filter_congr fun argument _ => ?_
      cases hargument : known argument with
      | true => simp [hmore _ hargument]
      | false => simp

/-- **Laws of references.** What a text refers to are known names, each once, and each of them
refers to itself. If the whole text is not known, they are exactly the arguments of the text that
are known and not empty, in the order in which these occur first, and none if the text has no
arguments; so a name that the text has only inside brackets of an argument is not among them. If of
more names that are known the whole text is not a new one, then it refers to the same as with them,
but for the new names. -/
theorem references_laws (hmore : ∀ name, known name = true → other name = true) (text : String) :
    (references known text).Nodup ∧
    (∀ name ∈ references known text, known name = true ∧ references known name = [name]) ∧
    (known (strip text) = false →
      (∀ outer body, HasShape text outer body →
        (∀ name, name ∈ references known text ↔
          name ∈ bodyArguments body ∧ name ≠ "" ∧ known name = true) ∧
        (references known text).Pairwise fun first second =>
          (bodyArguments body).idxOf first < (bodyArguments body).idxOf second) ∧
      ((¬ ∃ outer body, HasShape text outer body) → references known text = [])) ∧
    (∀ name, OnlyNested (strip text) name → name ∉ references known text) ∧
    ((other (strip text) = true → known (strip text) = true) →
      references known text = (references other text).filter known) := by
  refine ⟨nodup_references known text, fun name hname => ?_, fun hwhole => ⟨?_, fun hshape => ?_⟩,
    fun _ => not_mem_references_of_onlyNested, references_eq_filter hmore⟩
  · obtain ⟨hstrip, hne⟩ := strip_ne_empty_of_mem_references hname
    have hknown := known_of_mem_references hname
    exact ⟨hknown, references_self hstrip hne hknown⟩
  · intro outer body hshape
    rw [← hshape.argumentsOf_eq]
    refine ⟨fun name => mem_references_of_not_known hwhole, ?_⟩
    rw [references_of_not_known hwhole]
    exact (pairwise_idxOf_distinctFrom [] (argumentsOf text)).filter _
  · rw [references_of_not_known hwhole, argumentsOf_eq_nil hshape]
    rfl

/-- With cells known as well, the map refers to cells too, where they occur first, but to no row,
which it has inside the box only. Once the whole text is known, it refers to nothing else. -/
theorem map_references_more :
    (∀ name, ["Row", "Key"].contains name = true → ["Cell", "Row", "Key"].contains name = true) ∧
      OnlyNested (strip " Map<Key, Cell, Box<Row>, Key>") "Row" ∧
      "Row" ∉ references ["Row", "Key"].contains " Map<Key, Cell, Box<Row>, Key>" ∧
      references ["Cell", "Row", "Key"].contains " Map<Key, Cell, Box<Row>, Key>"
        = ["Key", "Cell"] ∧
      references ["Row", "Key"].contains " Map<Key, Cell, Box<Row>, Key>"
        = ["Key", "Cell"].filter ["Row", "Key"].contains ∧
      references ["Map<Key, Cell, Box<Row>, Key>", "Key"].contains " Map<Key, Cell, Box<Row>, Key>"
        = ["Map<Key, Cell, Box<Row>, Key>"] := by
  have hmore : ∀ name, ["Row", "Key"].contains name = true →
      ["Cell", "Row", "Key"].contains name = true := by
    intro name hname
    simp only [List.contains_iff_mem] at hname ⊢
    exact List.mem_cons_of_mem "Cell" hname
  have hnested : OnlyNested (strip " Map<Key, Cell, Box<Row>, Key>") "Row" := by decide
  obtain ⟨-, -, -, hinner, hfilter⟩ := references_laws hmore " Map<Key, Cell, Box<Row>, Key>"
  have hlarger : references ["Cell", "Row", "Key"].contains " Map<Key, Cell, Box<Row>, Key>"
      = ["Key", "Cell"] := by decide
  refine ⟨hmore, hnested, hinner "Row" hnested, hlarger, ?_, by decide⟩
  rw [hfilter (by decide), hlarger]

end RecordDocs
