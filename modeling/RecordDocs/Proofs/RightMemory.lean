import RecordDocs.Annotation.Substitution
import RecordDocs.Annotation.Vocabulary
import RecordDocs.Proofs.SteadyOutcomes

/-!
# Memories that are right

Forms can be the same and yet be written differently, so a form can come back from memory in another
spelling than it would be made in now. A form of classes and generics is rigid: it is the same only
as itself. A memory is right if what generics, optional forms and unions became with rigid arguments
is what they become without any memory. From right memories they become just that, and right
memories are left.
-/

namespace RecordDocs.Annotation

open TypeForm

variable {form other index : TypeForm} {forms others : List TypeForm}

/-! ### Rigid forms -/

/-- A form of classes, the null constant, the word for anything and generics of the vocabulary. -/
inductive IsRigid : TypeForm → Prop
  | null : IsRigid (.constant .null)
  | any : IsRigid (.special .any)
  | cls (ref : ClassRef) : IsRigid (.cls ref)
  | generic {word : GenericName} (hword : word ∈ generics) : IsRigid (.generic word)
  | application {word : GenericName} {arguments : List TypeForm} (hword : word ∈ generics)
      (harguments : ∀ argument ∈ arguments, IsRigid argument) :
      IsRigid (.application (.named word) arguments)
  | container {ref : ClassRef} {arguments : List TypeForm}
      (harguments : ∀ argument ∈ arguments, IsRigid argument) : IsRigid (.container ref arguments)

theorem generic_eq_of_origin_eq {word another : GenericName} (hword : word ∈ generics)
    (hanother : another ∈ generics) (horigin : word.origin = another.origin) : word = another := by
  have hall : ∀ word ∈ generics, ∀ another ∈ generics,
      word.origin = another.origin → word = another := by decide +kernel
  exact hall word hword another hanother horigin

theorem eq_of_sameAll (h : ∀ form ∈ forms, ∀ other, IsRigid other → form.same other = true →
      form = other) (hothers : ∀ other ∈ others, IsRigid other)
    (hsame : sameAll forms others = true) : forms = others := by
  induction forms generalizing others with
  | nil =>
      cases others with
      | nil => rfl
      | cons other others => simp [sameAll] at hsame
  | cons form forms ih =>
      cases others with
      | nil => simp [sameAll] at hsame
      | cons other others =>
          rw [sameAll, Bool.and_eq_true] at hsame
          rw [List.forall_mem_cons] at h hothers
          rw [h.1 other hothers.1 hsame.1, ih h.2 hothers.2 hsame.2]

theorem IsRigid.eq_of_same (h : IsRigid form) (hother : IsRigid other)
    (hsame : form.same other = true) : form = other := by
  induction h generalizing other with
  | null => cases hother <;> simp_all [same, Constant.same, Constant.number?]
  | any => cases hother <;> simp_all [same]
  | cls ref => cases hother <;> simp_all [same]
  | generic hword => cases hother <;> simp_all [same]
  | application hword harguments ih =>
      cases hother with
      | application hanother hothers =>
          rw [same, Bool.and_eq_true, Origin.same, beq_iff_eq] at hsame
          rw [generic_eq_of_origin_eq hword hanother hsame.1,
            eq_of_sameAll (fun form hmem other => ih form hmem) hothers hsame.2]
      | _ => simp [same] at hsame
  | container harguments ih =>
      cases hother with
      | container hothers =>
          rw [same, Bool.and_eq_true, decide_eq_true_eq] at hsame
          rw [hsame.1, eq_of_sameAll (fun form hmem other => ih form hmem) hothers hsame.2]
      | _ => simp [same] at hsame

inductive IsRigidIndex : TypeForm → Prop
  | single {form : TypeForm} (h : IsRigid form) : IsRigidIndex form
  | several {forms : List TypeForm} (h : ∀ form ∈ forms, IsRigid form) :
      IsRigidIndex (.tuple forms)

theorem IsRigidIndex.eq_of_same (h : IsRigidIndex form) (hother : IsRigidIndex other)
    (hsame : form.same other = true) : form = other := by
  cases h with
  | single h =>
      cases hother with
      | single hother => exact h.eq_of_same hother hsame
      | several hothers => cases h <;> simp [same] at hsame
  | several h =>
      cases hother with
      | single hother => cases hother <;> simp [same] at hsame
      | several hothers =>
          rw [same] at hsame
          rw [eq_of_sameAll (fun form hmem other => (h form hmem).eq_of_same) hothers hsame]

theorem IsRigidIndex.of_mem_listed (h : IsRigidIndex index) :
    ∀ form ∈ index.listed, IsRigid form := by
  cases h with
  | single h =>
      have hlisted : index.listed = [index] := by cases h <;> rfl
      rw [hlisted]
      intro form hmem
      rwa [List.mem_singleton.mp hmem]
  | several h => exact h

/-! ### What becomes of rigid arguments -/

def asType : TypeForm → TypeForm
  | .constant .null => .cls nullClass
  | form => form

theorem IsRigid.toType (h : IsRigid form) : IsRigid (asType form) := by
  cases h with
  | null => exact .cls nullClass
  | any => exact .any
  | cls ref => exact .cls ref
  | generic hword => exact .generic hword
  | application hword harguments => exact .application hword harguments
  | container harguments => exact .container harguments

theorem IsRigid.check_eq (h : IsRigid form) (place : String) (isQualified : Bool) :
    form.check place isQualified = .ok (asType form) := by
  cases h <;> rfl

theorem mapM_check_eq (h : ∀ form ∈ forms, IsRigid form) (place : String) (isQualified : Bool) :
    forms.mapM (check place isQualified) = .ok (forms.map asType) := by
  induction forms with
  | nil => rfl
  | cons form rest ih =>
      rw [List.forall_mem_cons] at h
      rw [List.mapM_cons, h.1.check_eq, ih h.2]
      rfl

theorem areHashable_iff : areHashable forms = true ↔ ∀ form ∈ forms, form.isHashable = true := by
  induction forms with
  | nil => simp [areHashable]
  | cons form rest ih => rw [areHashable, Bool.and_eq_true, ih, List.forall_mem_cons]

theorem IsRigid.isHashable (h : IsRigid form) : form.isHashable = true := by
  induction h with
  | application hword harguments ih =>
      rw [TypeForm.isHashable, areHashable_iff]
      exact ih
  | container harguments ih =>
      rw [TypeForm.isHashable, areHashable_iff]
      exact ih
  | _ => rfl

theorem flatMap_alternatives_eq (h : ∀ form ∈ forms, IsRigid form) :
    forms.flatMap alternatives = forms := by
  induction forms with
  | nil => rfl
  | cons form rest ih =>
      rw [List.forall_mem_cons] at h
      have hfirst : form.alternatives = [form] := by cases h.1 <;> rfl
      rw [List.flatMap_cons, hfirst, ih h.2]
      rfl

theorem unionOf_eq (h : ∀ form ∈ forms, IsRigid form) (hseveral : 2 ≤ forms.length)
    (hdistinct : TypeForm.distinctFrom [] (forms.map asType) = forms.map asType) :
    unionOf forms = .ok (.union false (forms.map asType)) := by
  have htypes : ∀ type ∈ forms.map asType, IsRigid type := by
    intro type hmem
    obtain ⟨form, hform, rfl⟩ := List.mem_map.mp hmem
    exact (h form hform).toType
  have hhashable : areHashable (forms.map asType) = true :=
    areHashable_iff.mpr fun type hmem => (htypes type hmem).isHashable
  have hsome : forms.isEmpty = false := by
    cases forms with
    | nil => simp at hseveral
    | cons form rest => rfl
  rw [unionOf, hsome, mapM_check_eq h]
  simp only [Bool.false_eq_true, if_false, ok_bind, flatMap_alternatives_eq htypes, hhashable,
    Bool.not_true, hdistinct]
  match forms, hseveral with
  | first :: second :: rest, _ => rfl

theorem sequenceArguments_eq (h : ∀ form ∈ forms, IsRigid form) :
    sequenceArguments forms = .ok (forms.map asType) := by
  unfold sequenceArguments
  split
  · rename_i last hlast
    have hellipsis : last.isEllipsis = false := by
      cases h last (List.mem_of_getLast? hlast) <;> rfl
    rw [hellipsis, Bool.and_false, if_neg (by simp), mapM_check_eq h]
  · rename_i hnone
    rw [List.getLast?_eq_none_iff.mp hnone]
    rfl

/-- What words and generics become with rigid arguments, whatever is remembered. -/
inductive Becomes : Shelf → TypeForm → TypeForm → TypeForm → Prop
  | counted {word : GenericName} {index : TypeForm} (hword : word ∈ generics)
      (hindex : IsRigidIndex index) (hsome : index.listed ≠ [])
      (harity : word.arity = .exactly index.listed.length) :
      Becomes .generic (.generic word) index
        (.application (.named word) (index.listed.map asType))
  | sequence {word : GenericName} {index : TypeForm} (hword : word ∈ generics)
      (hindex : IsRigidIndex index) (harity : word.arity = .anyNumber) :
      Becomes .sequence (.generic word) index
        (.application (.named word) (index.listed.map asType))
  | union {items : List TypeForm} (hitems : ∀ item ∈ items, IsRigid item)
      (hseveral : 2 ≤ items.length)
      (hdistinct : TypeForm.distinctFrom [] (items.map asType) = items.map asType) :
      Becomes .word (.special .union) (.tuple items) (.union false (items.map asType))
  | optional {item : TypeForm} (hitem : IsRigid item)
      (hother : asType item ≠ .cls nullClass) :
      Becomes .word (.special .optional) item (.union false [asType item, .cls nullClass])

theorem Becomes.eq_of_same {shelf : Shelf} {subject another index place form other : TypeForm}
    (h : Becomes shelf subject index form) (hother : Becomes shelf another place other)
    (hsubject : subject.same another = true) (hindex : shelf.sameIndex index place = true) :
    form = other := by
  cases h with
  | counted hword hrigid hsome harity =>
      cases hother with
      | counted hword' hrigid' hsome' harity' =>
          rw [same, decide_eq_true_eq] at hsubject
          rw [hsubject, hrigid.eq_of_same hrigid' hindex]
  | sequence hword hrigid harity =>
      cases hother with
      | sequence hword' hrigid' harity' =>
          rw [same, decide_eq_true_eq] at hsubject
          rw [hsubject, hrigid.eq_of_same hrigid' hindex]
  | union hitems hseveral hdistinct =>
      cases hother with
      | union hitems' hseveral' hdistinct' =>
          have hsame := (IsRigidIndex.several hitems).eq_of_same (.several hitems') hindex
          rw [TypeForm.tuple.inj hsame]
      | optional hitem hother' => simp [same] at hsubject
  | optional hitem hnull =>
      cases hother with
      | union hitems' hseveral' hdistinct' => simp [same] at hsubject
      | optional hitem' hnull' => rw [hitem.eq_of_same hitem' hindex]

/-! ### Right memories -/

/-- Whatever is asked about rigid forms, the memory has the right answer if it has one. -/
def Memory.IsRight (memory : Memory) : Prop :=
  ∀ entry ∈ memory, ∀ shelf subject index form, Becomes shelf subject index form →
    entry.answers shelf subject index = true → entry.result = form

theorem Memory.isRight_nil : Memory.IsRight [] :=
  fun _ hmem => by cases hmem

theorem Memory.limited_sublist (shelf : Shelf) (room : Nat) (memory : Memory) :
    (Memory.limited shelf room memory).Sublist memory := by
  induction memory generalizing room with
  | nil => exact .refl _
  | cons entry rest ih =>
      unfold limited
      split
      · exact (ih room).cons_cons entry
      · split
        · exact (ih 0).cons entry
        · exact (ih _).cons_cons entry

theorem Memory.IsRight.add {memory : Memory} {entry : Recollection} (h : memory.IsRight)
    (hentry : Becomes entry.shelf entry.subject entry.index entry.result) :
    (memory.add entry).IsRight := by
  intro other hmem
  rcases List.mem_cons.mp ((limited_sublist _ _ _).subset hmem) with rfl | hold
  · intro shelf subject index form hform hanswers
    simp only [Recollection.answers, Bool.and_eq_true, decide_eq_true_eq] at hanswers
    obtain ⟨⟨rfl, hsubject⟩, hindex⟩ := hanswers
    exact hentry.eq_of_same hform hsubject hindex
  · exact h other hold

theorem Memory.IsRight.of_answer? {memory left : Memory} {shelf : Shelf}
    {subject index form result : TypeForm} (h : memory.IsRight)
    (hform : Becomes shelf subject index form)
    (hanswer : memory.answer? shelf subject index = some (result, left)) :
    result = form ∧ left.IsRight := by
  unfold answer? at hanswer
  split at hanswer
  · rename_i entry hfind
    cases hanswer
    have hmem := List.mem_of_find?_eq_some hfind
    have hanswers : entry.answers shelf subject index = true := by
      simpa using List.find?_some hfind
    refine ⟨h entry hmem shelf subject index form hform hanswers, ?_⟩
    intro other hother
    rcases List.mem_cons.mp hother with rfl | hrest
    · exact h other hmem
    · exact h other (List.mem_of_mem_eraseP hrest)
  · cases hanswer

/-- What is remembered about rigid forms is what is made of them. -/
theorem steady_remembered {shelf : Shelf} {subject index form : TypeForm} {make : Forming TypeForm}
    (h : Becomes shelf subject index form) (hmake : Steady Memory.IsRight make (.ok form)) :
    Steady Memory.IsRight (remembered shelf subject index make) (.ok form) := by
  intro memory hmemory
  unfold remembered
  split
  · exact hmake memory hmemory
  · rw [outcomeFrom_bind]
    have hget : outcomeFrom (get : Forming Memory) memory = (.ok memory, memory) := rfl
    rw [hget]
    cases hanswer : memory.answer? shelf subject index with
    | some answer =>
        obtain ⟨result, left⟩ := answer
        obtain ⟨rfl, hleft⟩ := hmemory.of_answer? h hanswer
        simp only [hanswer]
        exact ⟨rfl, hleft⟩
    | none =>
        simp only [hanswer]
        obtain ⟨hresult, hleft⟩ := hmake memory hmemory
        rw [outcomeFrom_bind]
        cases hrun : outcomeFrom make memory with
        | mk outcome left =>
            rw [hrun] at hresult hleft
            subst hresult
            exact ⟨rfl, hleft.add h⟩

theorem steady_formUnion (h : Becomes .word (.special .union) index form) :
    Steady Memory.IsRight (formUnion index) (.ok form) := by
  refine steady_remembered h ?_
  cases h with
  | union hitems hseveral hdistinct =>
      rw [← unionOf_eq hitems hseveral hdistinct]
      exact steady_lift _

theorem becomes_union_null (h : IsRigid form) (hother : asType form ≠ .cls nullClass) :
    Becomes .word (.special .union) (.tuple [asType form, .cls nullClass])
      (.union false [asType form, .cls nullClass]) := by
  have hitems : ∀ item ∈ [asType form, .cls nullClass], IsRigid item := by
    intro item hmem
    simp only [List.mem_cons, List.not_mem_nil, or_false] at hmem
    rcases hmem with rfl | rfl
    · exact h.toType
    · exact .cls nullClass
  have htypes : [asType form, .cls nullClass].map asType = [asType form, .cls nullClass] := by
    cases h <;> rfl
  have hdistinct : (TypeForm.cls nullClass).same (asType form) = false := by
    rw [Bool.eq_false_iff]
    exact fun hsame => hother ((IsRigid.cls nullClass).eq_of_same h.toType hsame).symm
  have hunion := Becomes.union hitems (Nat.le_refl 2)
    (by simp [htypes, TypeForm.distinctFrom, hdistinct])
  rwa [htypes] at hunion

theorem Becomes.steady_subscript {shelf : Shelf} {subject index form : TypeForm}
    (h : Becomes shelf subject index form) :
    Steady Memory.IsRight (subject.subscript index) (.ok form) := by
  cases h with
  | @counted word index hword hindex hsome harity =>
      rw [subscript, formApplication, harity]
      refine steady_remembered (.counted hword hindex hsome harity) ?_
      have htypes : Steady Memory.IsRight (index.listed.mapM fun item =>
          (liftM (item.check "Parameters to generic types must be types." false) : Forming _))
          (.ok (index.listed.map asType)) := by
        rw [← mapM_check_eq hindex.of_mem_listed]
        exact Steady.mapM fun item _ => steady_lift _
      have hcount : checkCount (.generic word) (index.listed.map asType).length index.listed.length
          = .ok () := by
        unfold checkCount
        rw [List.length_map, if_neg (by simpa using hsome), if_pos rfl]
      refine htypes.bind_ok ?_
      rw [hcount]
      exact (steady_lift _).bind_ok (steady_pure _)
  | sequence hword hindex harity =>
      rw [subscript, formApplication, harity]
      refine steady_remembered (.sequence hword hindex harity) ?_
      rw [sequenceArguments_eq hindex.of_mem_listed]
      exact (steady_lift _).bind_ok (steady_pure _)
  | union hitems hseveral hdistinct => exact steady_formUnion (.union hitems hseveral hdistinct)
  | optional hitem hother =>
      refine steady_remembered (.optional hitem hother) ?_
      rw [hitem.check_eq]
      exact (steady_lift _).bind_ok (steady_formUnion (becomes_union_null hitem hother))

end RecordDocs.Annotation
