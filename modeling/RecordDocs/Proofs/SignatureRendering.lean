import RecordDocs.Proofs.SignatureGrammar

/-!
# Rendered signatures

A signature is canonical if its parts are trimmed, its outer name is not empty and has no angle
brackets, and it has at least one argument, each of them balanced and without a comma outside its
brackets. Canonical signatures are the ones that are ever read from a text, and the ones that are
read back from their own rendering.
-/

namespace RecordDocs

namespace Signature

open Brackets Text

structure Canonical (signature : Signature) : Prop where
  outer_ne_empty : signature.outer ≠ ""
  strip_outer : strip signature.outer = signature.outer
  opening_not_mem : '<' ∉ signature.outer.toList
  closing_not_mem : '>' ∉ signature.outer.toList
  arguments_ne_nil : signature.arguments ≠ []
  strip_argument : ∀ argument ∈ signature.arguments, strip argument = argument
  balanced : ∀ argument ∈ signature.arguments, angles.Balanced argument.toList
  topCommas_eq_zero : ∀ argument ∈ signature.arguments, angles.topCommas argument.toList = 0

variable {signature : Signature} {text : String}

/-! ### What is rendered -/

theorem strip_ofList_cons_blank (text : String) :
    strip (String.ofList (' ' :: text.toList)) = strip text := by
  rw [strip, String.toList_ofList, trim_cons_of_blank (by decide), strip]

theorem Canonical.isPiece (h : signature.Canonical) {argument : String}
    (hmem : argument ∈ signature.arguments) : angles.IsPiece 0 argument.toList :=
  isPiece_iff.mpr ⟨h.balanced argument hmem, h.topCommas_eq_zero argument hmem⟩

/-- The arguments with separators between them are a balanced text, and cutting it gives them again,
but for a blank in front. -/
theorem Canonical.cut_arguments (h : signature.Canonical) :
    angles.Balanced (", ".intercalate signature.arguments).toList ∧
      (angles.cut 0 (", ".intercalate signature.arguments).toList).map
        (fun piece => strip (String.ofList piece)) = signature.arguments := by
  obtain ⟨first, others, harguments⟩ := List.exists_cons_of_ne_nil h.arguments_ne_nil
  have hpieces : ∀ argument ∈ first :: others, angles.IsPiece 0 argument.toList :=
    fun argument hmem => h.isPiece (harguments ▸ hmem)
  have hstrip : ∀ argument ∈ first :: others, strip argument = argument :=
    fun argument hmem => h.strip_argument argument (harguments ▸ hmem)
  rw [List.forall_mem_cons] at hpieces hstrip
  have hjoined : (", ".intercalate signature.arguments).toList
      = [',', ' '].intercalate (first.toList :: others.map String.toList) := by
    rw [harguments, String.toList_intercalate]
    rfl
  obtain ⟨hbalanced, hcut⟩ := cut_intercalate hpieces.1
    (List.forall_mem_map.mpr hpieces.2)
  rw [hjoined, hcut]
  refine ⟨balanced_iff.mpr hbalanced, ?_⟩
  have hothers : others.map (fun argument => strip (String.ofList (' ' :: argument.toList)))
      = others := by
    refine (List.map_congr_left fun argument hmem => ?_).trans (List.map_id others)
    rw [strip_ofList_cons_blank, hstrip.2 argument hmem, id]
  rw [List.map_cons, List.map_map, List.map_map, String.ofList_toList, hstrip.1, harguments]
  exact congrArg (List.cons first) hothers

theorem Canonical.hasShape (h : signature.Canonical) :
    HasShape signature.render signature.outer (", ".intercalate signature.arguments) := by
  refine ⟨?_, h.outer_ne_empty, h.opening_not_mem, h.closing_not_mem, h.cut_arguments.1⟩
  obtain ⟨first, rest, houter⟩ := List.exists_cons_of_ne_nil
    (show signature.outer.toList ≠ [] by simpa using h.outer_ne_empty)
  have hfirst : isBlank first = false := by
    refine not_isBlank_head?_trim signature.outer.toList first ?_
    have htrim : trim signature.outer.toList = signature.outer.toList := by
      have hstrip := congrArg String.toList h.strip_outer
      rwa [strip, String.toList_ofList] at hstrip
    rw [htrim, houter]
    rfl
  have htrim : trim signature.render.toList = signature.render.toList := by
    refine trim_eq_self ?_ ?_
    · simpa [render, houter] using hfirst
    · have hlast : signature.render.toList
          = (signature.outer ++ "<" ++ ", ".intercalate signature.arguments).toList ++ ['>'] := by
        rw [render, String.toList_append]
        rfl
      rw [hlast, List.getLast?_concat]
      rintro char ⟨⟩
      decide
  rw [strip, htrim, String.ofList_toList]
  rfl

theorem Canonical.parse?_render (h : signature.Canonical) :
    parse? signature.render = some signature := by
  have harguments := h.cut_arguments.2
  have houter := h.strip_outer
  rw [h.hasShape.parse?_eq]
  simp only [strip, String.toList_ofList] at harguments houter
  rw [ofParts, houter, harguments]

/-! ### What is read -/

theorem canonical_of_parse? (h : parse? text = some signature) : signature.Canonical := by
  obtain ⟨outer, body, hshape⟩ := exists_hasShape_of_parse? h
  obtain rfl : ofParts outer.toList body.toList = signature :=
    Option.some.inj (hshape.parse?_eq.symm.trans h)
  have hmem : ∀ {char}, char ∈ (strip outer).toList → char ∈ outer.toList := by
    intro char hchar
    rw [strip, String.toList_ofList] at hchar
    exact mem_of_mem_trim hchar
  have hpiece : ∀ argument ∈ (ofParts outer.toList body.toList).arguments,
      strip argument = argument ∧ angles.IsPiece 0 argument.toList := by
    intro argument hargument
    obtain ⟨piece, hpiece, rfl⟩ := List.mem_map.mp hargument
    rw [strip, String.toList_ofList, trim_trim]
    exact ⟨rfl, (isPiece_of_mem_cut hshape.balanced hpiece).trim⟩
  refine ⟨hshape.strip_outer_ne_empty, ?_, fun hopening => hshape.opening_not_mem (hmem hopening),
    fun hclosing => hshape.closing_not_mem (hmem hclosing), ?_,
    fun argument hargument => (hpiece argument hargument).1,
    fun argument hargument => (isPiece_iff.mp (hpiece argument hargument).2).1,
    fun argument hargument => (isPiece_iff.mp (hpiece argument hargument).2).2⟩
  · simp [ofParts, strip, trim_trim]
  · have hlength : (angles.cut 0 body.toList).length = _ := length_cut_eq_countP 0 body.toList
    intro hnil
    rw [ofParts, List.map_eq_nil_iff] at hnil
    rw [hnil] at hlength
    cases hlength

/-- **Reading and rendering are inverse on canonical signatures.** These are just the signatures
that are read back from their rendering, and just the ones that are read from any text; so what is
read from a text, rendered and read again, is the same. -/
theorem canonical_iff_parse? :
    (∀ signature : Signature, parse? signature.render = some signature ↔ signature.Canonical) ∧
    (∀ signature : Signature, (∃ text, parse? text = some signature) ↔ signature.Canonical) ∧
    ∀ text, (parse? text).bind (fun signature => parse? signature.render) = parse? text := by
  refine ⟨fun signature => ⟨canonical_of_parse?, Canonical.parse?_render⟩,
    fun signature => ⟨?_, fun h => ⟨_, h.parse?_render⟩⟩, fun text => ?_⟩
  · rintro ⟨text, htext⟩
    exact canonical_of_parse? htext
  · cases htext : parse? text with
    | none => rfl
    | some signature => exact (canonical_of_parse? htext).parse?_render

end Signature

end RecordDocs
