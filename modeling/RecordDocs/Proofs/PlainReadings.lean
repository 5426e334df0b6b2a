import RecordDocs.Proofs.FieldReadings
import RecordDocs.Proofs.RightMemory

/-!
# Plain annotations

A plain text is put together from names, generics of the vocabulary, container classes, optional
forms and unions; other plain annotations are such forms, with references to plain texts in them.
From right memories a plain annotation is read as one type, whatever is remembered.
-/

namespace RecordDocs

open Annotation TypeForm

variable {scope : Scope} {kept : Memory → Prop} {form type : TypeForm} {forms : List TypeForm}
  {resolveText : String → Bool → Forming TypeForm}

/-! ### Types that are what they stand for -/

theorem sameAll_self (h : ∀ form ∈ forms, form.same form = true) : sameAll forms forms = true := by
  induction forms with
  | nil => rfl
  | cons form rest ih =>
      rw [List.forall_mem_cons] at h
      rw [sameAll, h.1, ih h.2]
      rfl

theorem Annotation.IsRigid.same_self (h : IsRigid form) : form.same form = true := by
  induction h with
  | application hword harguments ih => simp [same, Origin.same, sameAll_self ih]
  | container harguments ih => simp [same, sameAll_self ih]
  | _ => simp [same, Constant.same, Constant.number?]

theorem withParts_self (h : ∀ form ∈ forms, IsRigid form) (whole : TypeForm) :
    whole.withParts forms forms = pure whole := by
  rw [withParts, sameAll_self fun form hmem => (h form hmem).same_self]
  rfl

theorem steady_resolveAll
    (h : ∀ form ∈ forms, Steady kept (form.resolve resolveText) (.ok form)) :
    Steady kept (resolveAll resolveText forms) (.ok forms) := by
  induction forms with
  | nil => exact steady_pure []
  | cons form rest ih =>
      rw [List.forall_mem_cons] at h
      exact h.1.bind_ok ((ih h.2).bind_ok (steady_pure _))

theorem steady_allWithoutNotes (h : ∀ form ∈ forms, Steady kept form.withoutNotes (.ok form)) :
    Steady kept (allWithoutNotes forms) (.ok forms) := by
  induction forms with
  | nil => exact steady_pure []
  | cons form rest ih =>
      rw [List.forall_mem_cons] at h
      exact h.1.bind_ok ((ih h.2).bind_ok (steady_pure _))

theorem steady_resolveContents (hrigid : ∀ form ∈ forms, IsRigid form)
    (h : ∀ form ∈ forms, Steady kept (form.resolve resolveText) (.ok form)) :
    Steady kept (resolveContents resolveText forms) (.ok forms) := by
  induction forms with
  | nil => exact steady_pure []
  | cons form rest ih =>
      rw [List.forall_mem_cons] at h hrigid
      have hall : Steady kept (do
          let form ← form.resolve resolveText
          return form :: (← resolveContents resolveText rest)) (.ok (form :: rest)) :=
        h.1.bind_ok ((ih hrigid.2 h.2).bind_ok (steady_pure _))
      cases hrigid.1 <;> exact hall

theorem mapM_asReference_eq (h : ∀ form ∈ forms, IsRigid form) :
    forms.mapM asReference = .ok forms := by
  induction forms with
  | nil => rfl
  | cons form rest ih =>
      rw [List.forall_mem_cons] at h
      have hfirst : asReference form = .ok form := by cases h.1 <;> rfl
      rw [List.mapM_cons, hfirst, ih h.2]
      rfl

theorem Annotation.IsRigid.steady_resolve (h : IsRigid form) :
    Steady kept (form.resolve resolveText) (.ok form) := by
  induction h with
  | application hword harguments ih =>
      refine (steady_resolveAll ih).bind_ok ?_
      rw [withParts_self harguments]
      exact steady_pure _
  | container harguments ih =>
      unfold TypeForm.resolve
      rw [mapM_asReference_eq harguments]
      refine (steady_lift _).bind_ok ((steady_resolveContents harguments ih).bind_ok ?_)
      rw [withParts_self harguments]
      exact steady_pure _
  | _ => exact steady_pure _

theorem Annotation.IsRigid.steady_withoutNotes (h : IsRigid form) :
    Steady kept form.withoutNotes (.ok form) := by
  induction h with
  | application hword harguments ih =>
      refine (steady_allWithoutNotes ih).bind_ok ?_
      rw [withParts_self harguments]
      exact steady_pure _
  | container harguments ih =>
      refine (steady_allWithoutNotes ih).bind_ok ?_
      rw [withParts_self harguments]
      exact steady_pure _
  | _ => exact steady_pure _

inductive IsPlainType : TypeForm → Prop
  | rigid {form : TypeForm} (h : IsRigid form) : IsPlainType form
  | union {isInfixed : Bool} {members : List TypeForm} (h : ∀ member ∈ members, IsRigid member) :
      IsPlainType (.union isInfixed members)

namespace IsPlainType

theorem check_eq (h : IsPlainType form) (place : String) (isQualified : Bool) :
    form.check place isQualified = .ok (asType form) := by
  cases h with
  | rigid h => exact h.check_eq place isQualified
  | union h => rfl

theorem toType (h : IsPlainType form) : IsPlainType (asType form) := by
  cases h with
  | rigid h => exact .rigid h.toType
  | union h => exact .union h

theorem steady_resolve (h : IsPlainType form) :
    Steady kept (form.resolve resolveText) (.ok form) := by
  cases h with
  | rigid h => exact h.steady_resolve
  | union h =>
      refine (steady_resolveAll fun member hmem => (h member hmem).steady_resolve).bind_ok ?_
      rw [withParts_self h]
      exact steady_pure _

theorem steady_withoutNotes (h : IsPlainType form) : Steady kept form.withoutNotes (.ok form) := by
  cases h with
  | rigid h => exact h.steady_withoutNotes
  | union h =>
      refine (steady_allWithoutNotes fun member hmem =>
        (h member hmem).steady_withoutNotes).bind_ok ?_
      rw [withParts_self h]
      exact steady_pure _

end IsPlainType

/-! ### Texts -/

mutual

inductive Denotes (scope : Scope) : Expression → TypeForm → Prop
  | name {text : String} {form : TypeForm} (hfind : scope.find? text = some form) :
      Denotes scope (.name text) form
  | null : Denotes scope (.constant .null) (.constant .null)
  | applied {owner index : Expression} {shelf : Shelf} {subject argument form : TypeForm}
      (howner : Denotes scope owner subject) (hindex : Denotes scope index argument)
      (h : Becomes shelf subject argument form) : Denotes scope (.subscript owner index) form
  | container {owner index : Expression} {ref : ClassRef} {argument : TypeForm}
      (howner : Denotes scope owner (.cls ref)) (hkind : ref.kind = .container)
      (hindex : Denotes scope index argument) :
      Denotes scope (.subscript owner index) (.container ref argument.listed)
  | either {left right : Expression} {first second : TypeForm} {members : List TypeForm}
      (hleft : Denotes scope left first) (hright : Denotes scope right second)
      (hclasses : (first.isClassLike && second.isClassLike
        && !(first.isNull && second.isNull)) = true)
      (hmembers : TypeForm.distinctFrom [] (first.infixedMembers ++ second.infixedMembers)
        = members)
      (hseveral : 2 ≤ members.length) : Denotes scope (.either left right) (.union true members)
  | tuple {items : List Expression} {forms : List TypeForm} (h : DenoteAll scope items forms) :
      Denotes scope (.tuple items) (.tuple forms)

inductive DenoteAll (scope : Scope) : List Expression → List TypeForm → Prop
  | nil : DenoteAll scope [] []
  | cons {item : Expression} {form : TypeForm} {rest : List Expression} {forms : List TypeForm}
      (hfirst : Denotes scope item form) (hrest : DenoteAll scope rest forms) :
      DenoteAll scope (item :: rest) (form :: forms)

end

mutual

theorem Denotes.steady : ∀ {expression : Expression} {form : TypeForm},
    Denotes scope expression form → Steady Memory.IsRight (scope.evaluate expression) (.ok form)
  | _, _, .name hfind => by
      rw [Scope.evaluate, hfind]
      exact steady_pure _
  | _, _, .null => steady_pure _
  | _, _, .applied howner hindex h =>
      howner.steady.bind_ok (hindex.steady.bind_ok h.steady_subscript)
  | _, _, .container howner hkind hindex => by
      refine howner.steady.bind_ok (hindex.steady.bind_ok ?_)
      rw [subscript, formClassApplication, hkind]
      exact steady_pure _
  | _, _, .either hleft hright hclasses hmembers hseveral => by
      refine hleft.steady.bind_ok (hright.steady.bind_ok ?_)
      rw [TypeForm.either, if_pos hclasses, hmembers]
      split
      · simp at hseveral
      · exact steady_pure _
  | _, _, .tuple h => h.steady.bind_ok (steady_pure _)

theorem DenoteAll.steady : ∀ {items : List Expression} {forms : List TypeForm},
    DenoteAll scope items forms → Steady Memory.IsRight (scope.evaluateAll items) (.ok forms)
  | _, _, .nil => steady_pure _
  | _, _, .cons hfirst hrest => hfirst.steady.bind_ok (hrest.steady.bind_ok (steady_pure _))

end

theorem steady_resolveText {text : String} {expression : Expression} (isQualified : Bool)
    (fuel : Nat) (hread : Expression.read? text = some expression)
    (hform : Denotes scope expression form) (hplain : IsPlainType form) :
    Steady Memory.IsRight (scope.resolveText (fuel + 1) text isQualified) (.ok (asType form)) := by
  have htext : Steady Memory.IsRight (scope.evaluateText text) (.ok form) := by
    rw [Scope.evaluateText, hread]
    exact hform.steady
  refine htext.bind_ok ?_
  rw [hplain.check_eq]
  exact (steady_lift _).bind_ok hplain.toType.steady_resolve

/-! ### Forms with references -/

mutual

/-- What a form of generics stands for, with its references to plain texts resolved. -/
inductive StandsFor (scope : Scope) : TypeForm → TypeForm → Prop
  | rigid {form : TypeForm} (h : IsRigid form) : StandsFor scope form form
  | reference {text : String} {isQualified : Bool} {expression : Expression} {form : TypeForm}
      (hread : Expression.read? text = some expression) (hform : Denotes scope expression form)
      (hrigid : IsRigid form) : StandsFor scope (.reference text isQualified) (asType form)
  | application {word : GenericName} {arguments types : List TypeForm} (hword : word ∈ generics)
      (h : AllStandFor scope arguments types) :
      StandsFor scope (.application (.named word) arguments) (.application (.named word) types)

inductive AllStandFor (scope : Scope) : List TypeForm → List TypeForm → Prop
  | nil : AllStandFor scope [] []
  | cons {form type : TypeForm} {rest types : List TypeForm} (hfirst : StandsFor scope form type)
      (hrest : AllStandFor scope rest types) : AllStandFor scope (form :: rest) (type :: types)

end

mutual

theorem StandsFor.isRigid : ∀ {form type : TypeForm}, StandsFor scope form type → IsRigid type
  | _, _, .rigid h => h
  | _, _, .reference _ _ hrigid => hrigid.toType
  | _, _, .application hword h => .application hword h.isRigid

theorem AllStandFor.isRigid : ∀ {forms types : List TypeForm}, AllStandFor scope forms types →
    ∀ type ∈ types, IsRigid type
  | _, _, .nil => fun _ hmem => by cases hmem
  | _, _, .cons hfirst hrest => List.forall_mem_cons.mpr ⟨hfirst.isRigid, hrest.isRigid⟩

end

mutual

theorem StandsFor.eq_of_same : ∀ {form type : TypeForm}, StandsFor scope form type →
    form.same type = true → form = type
  | _, _, .rigid _, _ => rfl
  | _, _, .reference _ _ hrigid, hsame => by cases hrigid <;> simp [asType, same] at hsame
  | _, _, .application hword h, hsame => by
      rw [same, Bool.and_eq_true] at hsame
      rw [h.eq_of_sameAll hsame.2]

theorem AllStandFor.eq_of_sameAll : ∀ {forms types : List TypeForm}, AllStandFor scope forms types →
    sameAll forms types = true → forms = types
  | _, _, .nil, _ => rfl
  | _, _, .cons hfirst hrest, hsame => by
      rw [sameAll, Bool.and_eq_true] at hsame
      rw [hfirst.eq_of_same hsame.1, hrest.eq_of_sameAll hsame.2]

end

mutual

theorem StandsFor.steady (fuel : Nat) : ∀ {form type : TypeForm}, StandsFor scope form type →
    Steady Memory.IsRight (form.resolve (scope.resolveText (fuel + 1))) (.ok type)
  | _, _, .rigid h => h.steady_resolve
  | _, _, .reference hread hform hrigid =>
      steady_resolveText _ fuel hread hform (.rigid hrigid)
  | _, _, .application hword h => by
      refine (h.steady fuel).bind_ok ?_
      rw [withParts]
      split
      · rename_i hsame
        rw [h.eq_of_sameAll hsame]
        exact steady_pure _
      · exact steady_pure _

theorem AllStandFor.steady (fuel : Nat) : ∀ {forms types : List TypeForm},
    AllStandFor scope forms types →
    Steady Memory.IsRight (resolveAll (scope.resolveText (fuel + 1)) forms) (.ok types)
  | _, _, .nil => steady_pure _
  | _, _, .cons hfirst hrest =>
      (hfirst.steady fuel).bind_ok ((hrest.steady fuel).bind_ok (steady_pure _))

end

/-! ### Readings -/

variable {reading : TypeForm → Except Fault TypeForm} {text word : String} {expression : Expression}

/-- The text can be a reference, and it is the text of the expression. -/
structure IsSource (text : String) (expression : Expression) : Prop where
  not_isEmpty : text.isEmpty = false
  no_surrogates : Text.firstSurrogates? text.toList = none
  no_null : text.toList.contains '\x00' = false
  read_eq : Expression.read? text = some expression

theorem IsSource.convert_eq (h : IsSource text expression) (isQualified : Bool) :
    (TypeForm.constant (.text text)).convert isQualified = .ok (.reference text isQualified) := by
  rw [convert, ofText, h.not_isEmpty, h.no_surrogates, h.no_null, h.read_eq]
  rfl

theorem isRead_text (h : IsSource text expression) (hform : Denotes scope expression form)
    (hplain : IsPlainType form)
    (hreading : reading (.constant (.text text)) = .ok (asType form)) :
    IsRead Memory.IsRight scope reading (.constant (.text text)) := by
  refine .asType ?_ hplain.toType.steady_withoutNotes hreading
  rw [Scope.resolve, h.convert_eq]
  exact (steady_lift _).bind_ok (steady_resolveText true _ h.read_eq hform hplain)

theorem isRead_unknown (h : IsSource text (.name word)) (hfind : scope.find? word = none)
    (hreading : reading (.constant (.text text)) = .error (.unknownName word)) :
    IsRead Memory.IsRight scope reading (.constant (.text text)) := by
  refine .unresolvable ?_ rfl hreading
  rw [Scope.resolve, h.convert_eq]
  refine (steady_lift _).bind_ok (Steady.bind_error ?_)
  simp only [Scope.evaluateText, h.read_eq, Scope.evaluate, hfind]
  exact steady_throw _

theorem isRead_form (h : StandsFor scope form type) (hform : form ≠ .constant .null)
    (hreading : reading form = .ok type) : IsRead Memory.IsRight scope reading form := by
  refine .asType ?_ h.isRigid.steady_withoutNotes hreading
  have hconvert : form.convert true = .ok form := by
    cases h with
    | rigid h =>
        cases h with
        | null => exact absurd rfl hform
        | _ => rfl
    | reference hread hdenotes hrigid => rfl
    | application hword h => rfl
  rw [Scope.resolve, hconvert]
  exact (steady_lift _).bind_ok (h.steady _)

end RecordDocs
