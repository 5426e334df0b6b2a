import Mathlib.Data.List.Forall2
import RecordDocs.Annotation.Formation
import RecordDocs.Annotation.Rendering
import RecordDocs.Annotation.Vocabulary
import RecordDocs.Proofs.ReferenceGraph
import RecordDocs.Proofs.SignatureArguments
import RecordDocs.Registry

/-!
# Signatures of plain annotations

A plain form is put together from classes, the null constant, the word for anything, generics with
or without arguments and unions, and an ellipsis may stand among the arguments. However deep it is
nested, its signature is cut where its own arguments end: it is read back as the name that it
applies and the signatures of its arguments, and the records it refers to are among these and not
below them.
-/

namespace RecordDocs.Annotation

open Brackets Text

namespace TypeForm

variable {form argument : TypeForm} {head : String} {arguments : List TypeForm}

/-! ### Parts -/

/-- What a form with arguments applies, by name, and the arguments; a union applies one word however
it is written. Signatures with parameters are left out. -/
def parts? : TypeForm → Option (String × List TypeForm)
  | .application origin arguments =>
      if origin.isSignature then none else some (origin.name, arguments)
  | .container ref arguments => some (ref.name, arguments)
  | .union _ members => some ("Union", members)
  | _ => none

def argumentSignature (form : TypeForm) : String :=
  dotted form form.signature

theorem argumentSignatures_eq_map (arguments : List TypeForm) :
    argumentSignatures arguments = arguments.map argumentSignature := by
  induction arguments with
  | nil => rfl
  | cons argument rest ih => rw [argumentSignatures, ih, List.map_cons, argumentSignature]

theorem eq_ellipsis (h : form.isEllipsis = true) : form = .constant .ellipsis := by
  unfold isEllipsis at h
  split at h
  · rfl
  · cases h

theorem argumentSignature_of_isEllipsis (h : form.isEllipsis = true) :
    form.argumentSignature = "..." := by
  rw [eq_ellipsis h]
  rfl

theorem argumentSignature_of_not_isEllipsis (h : form.isEllipsis = false) :
    form.argumentSignature = form.signature := by
  unfold argumentSignature dotted
  split
  · cases h
  · rfl

theorem signature_of_parts? (h : form.parts? = some (head, arguments)) :
    form.signature = headed head (arguments.map argumentSignature) := by
  unfold parts? at h
  split at h
  · split at h
    · cases h
    · rename_i hsignature
      cases h
      rw [signature, ← argumentSignatures_eq_map]
      simp [hsignature]
  · cases h
    rw [signature, argumentSignatures_eq_map]
  · cases h
    rw [signature, argumentSignatures_eq_map]
  · cases h

theorem isWritable_of_parts? (h : form.parts? = some (head, arguments)) :
    form.isWritable = areWritable arguments := by
  unfold parts? at h
  split at h
  · split at h
    · cases h
    · cases h
      rw [isWritable]
  · cases h
    rw [isWritable]
  · cases h
    rw [isWritable]
  · cases h

theorem areWritable_iff : areWritable arguments = true ↔
    ∀ argument ∈ arguments, argument.isWritable = true := by
  induction arguments with
  | nil => simp [areWritable]
  | cons argument rest ih => rw [areWritable, Bool.and_eq_true, ih, List.forall_mem_cons]

/-! ### Plain forms -/

/-- A form of named classes, the null constant and the word for anything, of generics with or
without arguments and of unions. -/
inductive IsPlain : TypeForm → Prop
  | null : IsPlain (.constant .null)
  | any : IsPlain (.special .any)
  | cls {ref : ClassRef} (hname : IsName ref.name) : IsPlain (.cls ref)
  | generic {word : GenericName} (hname : IsName word.origin) : IsPlain (.generic word)
  | applied {form : TypeForm} {head : String} {arguments : List TypeForm}
      (hparts : form.parts? = some (head, arguments)) (hname : IsName head)
      (harguments : ∀ argument ∈ arguments, argument.isEllipsis = false → IsPlain argument) :
      IsPlain form

theorem IsPlain.isWritable (h : IsPlain form) : form.isWritable = true := by
  induction h with
  | null => rfl
  | any => rfl
  | cls hname => rfl
  | generic hname => rfl
  | applied hparts hname harguments ih =>
      rw [isWritable_of_parts? hparts, areWritable_iff]
      intro argument hmem
      cases hdots : argument.isEllipsis with
      | false => exact ih argument hmem hdots
      | true =>
          rw [eq_ellipsis hdots]
          rfl

theorem IsPlain.signature?_eq (h : IsPlain form) : form.signature? = .ok form.signature := by
  rw [signature?, if_pos h.isWritable]

theorem IsPlain.of_parts? (h : IsPlain form) (hparts : form.parts? = some (head, arguments)) :
    IsName head ∧ ∀ argument ∈ arguments, argument.isEllipsis = false → IsPlain argument := by
  cases h with
  | applied hown hname harguments =>
      rw [hparts] at hown
      cases hown
      exact ⟨hname, harguments⟩
  | _ => cases hparts

theorem isArgument_argumentSignature
    (h : form.isEllipsis = false → Signature.IsArgument form.signature) :
    Signature.IsArgument form.argumentSignature := by
  cases hdots : form.isEllipsis with
  | true =>
      rw [argumentSignature_of_isEllipsis hdots]
      have hdots : angles.IsPiece 0 ['.', '.', '.'] := isPiece_of_forall_ne (by simp [angles])
      exact ⟨by decide, hdots⟩
  | false =>
      rw [argumentSignature_of_not_isEllipsis hdots]
      exact h hdots

theorem isCompound_map (hname : IsName head) (hsome : arguments ≠ [])
    (h : ∀ argument ∈ arguments,
      argument.isEllipsis = false → Signature.IsArgument argument.signature) :
    Signature.IsCompound ⟨head, arguments.map argumentSignature⟩ := by
  refine ⟨hname, by simpa using hsome, fun text htext => ?_⟩
  obtain ⟨argument, hmem, rfl⟩ := List.mem_map.mp htext
  exact isArgument_argumentSignature (h argument hmem)

/-- The signature of a plain form stands as it is among the arguments of another. -/
theorem IsPlain.isArgument (h : IsPlain form) : Signature.IsArgument form.signature := by
  induction h with
  | null => exact Signature.isArgument_of_isName (by decide)
  | any => exact Signature.isArgument_of_isName (by decide)
  | @cls ref hname =>
      rw [TypeForm.signature]
      split
      · exact Signature.isArgument_of_isName (by decide)
      · exact Signature.isArgument_of_isName hname
  | generic hname => exact Signature.isArgument_of_isName hname
  | @applied form head arguments hparts hname harguments ih =>
      rw [signature_of_parts? hparts]
      unfold headed
      split
      · exact Signature.isArgument_of_isName hname
      · rename_i hsome
        exact (isCompound_map hname (by simpa using hsome) ih).isArgument_render

theorem IsPlain.isCompound (h : IsPlain form) (hparts : form.parts? = some (head, arguments))
    (hsome : arguments ≠ []) : Signature.IsCompound ⟨head, arguments.map argumentSignature⟩ := by
  obtain ⟨hname, harguments⟩ := h.of_parts? hparts
  exact isCompound_map hname hsome fun argument hmem hdots =>
    (harguments argument hmem hdots).isArgument

theorem signature_eq_render (hparts : form.parts? = some (head, arguments))
    (hsome : arguments ≠ []) :
    form.signature = Signature.render ⟨head, arguments.map argumentSignature⟩ := by
  rw [signature_of_parts? hparts, headed, if_neg (by simpa using hsome)]

theorem eq_nil_of_isName_signature (hname : IsName form.signature)
    (hparts : form.parts? = some (head, arguments)) : arguments = [] := by
  by_contra hsome
  rw [signature_eq_render hparts hsome] at hname
  exact Signature.not_isName_render _ hname

/-! ### Reading back -/

def IsShownAs (argument : TypeForm) (text : String) : Prop :=
  if argument.isEllipsis then text = "..." else argument.signature? = .ok text

theorem isShownAs_argumentSignature (h : argument.isEllipsis = false → IsPlain argument) :
    IsShownAs argument argument.argumentSignature := by
  cases hdots : argument.isEllipsis with
  | true => simp [IsShownAs, hdots, argumentSignature_of_isEllipsis]
  | false =>
      simp [IsShownAs, hdots, argumentSignature_of_not_isEllipsis, (h hdots).signature?_eq]

theorem forall₂_isShownAs
    (h : ∀ argument ∈ arguments, argument.isEllipsis = false → IsPlain argument) :
    List.Forall₂ IsShownAs arguments (arguments.map argumentSignature) := by
  rw [List.forall₂_map_right_iff, List.forall₂_same]
  exact fun argument hmem => isShownAs_argumentSignature (h argument hmem)

/-- **A signature of an annotation is read back as its own parts.** A plain form with arguments has
a signature. It is read back as the name that the form applies, which is one word for all unions,
with the signatures of just its arguments, an ellipsis as three dots. So where all registered names
are identifiers, the form refers to those of its arguments whose signatures are registered, each
once and in order; each of them is an argument without arguments of its own, and nothing that is
nested deeper is referred to. -/
theorem plain_signature_reads_back (h : IsPlain form)
    (hparts : form.parts? = some (head, arguments)) (hsome : arguments ≠ []) :
    ∃ text shown, form.signature? = .ok text ∧ List.Forall₂ IsShownAs arguments shown ∧
      Signature.parse? text = some ⟨head, shown⟩ ∧
      ∀ table : RecordTable, (∀ key ∈ table.keys, IsName key) →
        table.references text = (shown.filter table.contains).eraseDups ∧
        ∀ name ∈ table.references text, ∃ argument ∈ arguments,
          argument.signature? = .ok name ∧
            ∀ inner parts, argument.parts? = some (inner, parts) → parts = [] := by
  obtain ⟨-, harguments⟩ := h.of_parts? hparts
  have hcanonical := (h.isCompound hparts hsome).canonical
  refine ⟨form.signature, arguments.map argumentSignature, h.signature?_eq,
    forall₂_isShownAs harguments, ?_, fun table hkeys => ?_⟩
  · rw [signature_eq_render hparts hsome]
    exact hcanonical.parse?_render
  · have hreferences : table.references form.signature
        = ((arguments.map argumentSignature).filter table.contains).eraseDups := by
      rw [signature_eq_render hparts hsome]
      refine references_render (fun name hknown => hkeys name ?_) hcanonical
      simpa [RecordTable.contains] using hknown
    refine ⟨hreferences, fun name hname => ?_⟩
    rw [hreferences, List.mem_eraseDups, List.mem_filter] at hname
    obtain ⟨hshown, hkey⟩ := hname
    obtain ⟨argument, hmem, rfl⟩ := List.mem_map.mp hshown
    have hisName := hkeys _ (by simpa [RecordTable.contains] using hkey)
    cases hdots : argument.isEllipsis with
    | true =>
        rw [argumentSignature_of_isEllipsis hdots] at hisName
        exact absurd hisName (by decide)
    | false =>
        rw [argumentSignature_of_not_isEllipsis hdots] at hisName ⊢
        exact ⟨argument, hmem, (harguments argument hmem hdots).signature?_eq,
          fun inner parts => eq_nil_of_isName_signature hisName⟩

def libraryClass (name : String) : TypeForm :=
  .cls (.ofModule "library" name .plain 0)

def loan : TypeForm :=
  .application (.named (genericName "Tuple" "tuple" .anyNumber))
    [libraryClass "Book", .container (.builtin "list" .container) [libraryClass "Author"],
      .union true [libraryClass "Book", .cls nullClass], libraryClass "Card",
      .constant .ellipsis]

/-- The tuple refers to books and cards, but not to the authors, which are inside of a list. -/
theorem loan_refers_to_books_and_cards :
    IsPlain loan ∧ loan.signature? = .ok "tuple<Book, list<Author>, Union<Book, None>, Card, ...>" ∧
      (∀ key ∈ RecordTable.library.keys, IsName key) ∧
      Signature.parse? "tuple<Book, list<Author>, Union<Book, None>, Card, ...>"
        = some ⟨"tuple", ["Book", "list<Author>", "Union<Book, None>", "Card", "..."]⟩ ∧
      RecordTable.library.references "tuple<Book, list<Author>, Union<Book, None>, Card, ...>"
        = ["Book", "Card"] := by
  have hclass : ∀ name, IsName name → IsPlain (libraryClass name) := fun name hname => .cls hname
  have hauthors : IsPlain (.container (.builtin "list" .container) [libraryClass "Author"]) := by
    refine .applied rfl (by decide) fun argument hmem _ => ?_
    rw [List.mem_singleton.mp hmem]
    exact hclass "Author" (by decide)
  have hbook : IsPlain (.union true [libraryClass "Book", .cls nullClass]) := by
    refine .applied rfl (by decide) fun argument hmem _ => ?_
    simp only [List.mem_cons, List.not_mem_nil, or_false] at hmem
    rcases hmem with rfl | rfl
    · exact hclass "Book" (by decide)
    · exact .cls (by decide)
  have hplain : IsPlain loan := by
    refine .applied rfl (by decide) fun argument hmem hdots => ?_
    simp only [List.mem_cons, List.not_mem_nil, or_false] at hmem
    rcases hmem with rfl | rfl | rfl | rfl | rfl
    · exact hclass "Book" (by decide)
    · exact hauthors
    · exact hbook
    · exact hclass "Card" (by decide)
    · cases hdots
  have hkeys : ∀ key ∈ RecordTable.library.keys, IsName key := by decide
  have hsignature :
      loan.signature? = .ok "tuple<Book, list<Author>, Union<Book, None>, Card, ...>" := rfl
  obtain ⟨text, shown, htext, -, hparse, hreferences⟩ :=
    plain_signature_reads_back hplain rfl (List.cons_ne_nil _ _)
  obtain rfl := Except.ok.inj (hsignature.symm.trans htext)
  have hparts : Signature.parse? "tuple<Book, list<Author>, Union<Book, None>, Card, ...>"
      = some ⟨"tuple", ["Book", "list<Author>", "Union<Book, None>", "Card", "..."]⟩ := by decide
  obtain rfl : ["Book", "list<Author>", "Union<Book, None>", "Card", "..."] = shown :=
    congrArg Signature.arguments (Option.some.inj (hparts.symm.trans hparse))
  refine ⟨hplain, hsignature, hkeys, hparts, ?_⟩
  rw [(hreferences RecordTable.library hkeys).1]
  decide

end TypeForm

end RecordDocs.Annotation
