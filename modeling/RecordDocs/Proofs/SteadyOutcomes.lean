import RecordDocs.Annotation.Memory
import RecordDocs.Proofs.Outcomes

/-!
# Outcomes that do not depend on the memory

A computation that may fail and that remembers things is steady if from every memory of some kind it
has the same outcome, and leaves a memory of that kind again. Steps that are steady one by one are
so together, and what comes out is what would come out of their outcomes without any memory.
-/

namespace RecordDocs

variable {ε ε' σ α β : Type} {kept : σ → Prop}

/-- What comes out of a computation from a memory, and the memory that it leaves. -/
def outcomeFrom (make : ExceptT ε (StateM σ) α) (memory : σ) : Except ε α × σ :=
  make.run.run memory

theorem outcomeFrom_bind (make : ExceptT ε (StateM σ) α) (next : α → ExceptT ε (StateM σ) β)
    (memory : σ) :
    outcomeFrom (make >>= next) memory = match outcomeFrom make memory with
      | (.ok value, left) => outcomeFrom (next value) left
      | (.error cause, left) => (.error cause, left) := by
  unfold outcomeFrom
  simp only [bind, ExceptT.bind, ExceptT.mk, ExceptT.run, StateT.bind, StateT.run]
  cases make memory with
  | mk outcome left => cases outcome <;> rfl

theorem exists_of_outcomeFrom_bind {make : ExceptT ε (StateM σ) α}
    {next : α → ExceptT ε (StateM σ) β} {memory : σ} {result : β}
    (h : (outcomeFrom (make >>= next) memory).1 = .ok result) :
    ∃ value left, (outcomeFrom make memory).1 = .ok value ∧
      (outcomeFrom (next value) left).1 = .ok result := by
  rw [outcomeFrom_bind] at h
  cases hmake : outcomeFrom make memory with
  | mk outcome left =>
      rw [hmake] at h
      cases outcome with
      | error cause => cases h
      | ok value => exact ⟨value, left, rfl, h⟩

theorem forall₂_of_outcomeFrom_mapM {step : α → ExceptT ε (StateM σ) β} {items : List α}
    {results : List β} {memory : σ} (h : (outcomeFrom (items.mapM step) memory).1 = .ok results) :
    List.Forall₂ (fun item result => ∃ left, (outcomeFrom (step item) left).1 = .ok result)
      items results := by
  induction items generalizing results memory with
  | nil =>
      cases h
      exact .nil
  | cons item rest ih =>
      rw [List.mapM_cons] at h
      obtain ⟨first, left, hfirst, h⟩ := exists_of_outcomeFrom_bind h
      obtain ⟨others, _, hothers, h⟩ := exists_of_outcomeFrom_bind h
      cases h
      exact .cons ⟨memory, hfirst⟩ (ih hothers)

/-- From every memory of the kind comes this outcome, and a memory of the kind is left. -/
def Steady (kept : σ → Prop) (make : ExceptT ε (StateM σ) α) (outcome : Except ε α) : Prop :=
  ∀ memory, kept memory →
    (outcomeFrom make memory).1 = outcome ∧ kept (outcomeFrom make memory).2

theorem steady_lift (outcome : Except ε α) :
    Steady kept (liftM outcome : ExceptT ε (StateM σ) α) outcome :=
  fun _ hmemory => ⟨rfl, hmemory⟩

theorem steady_pure (value : α) :
    Steady kept (pure value : ExceptT ε (StateM σ) α) (.ok value) :=
  steady_lift (.ok value)

theorem steady_throw (cause : ε) :
    Steady kept (throw cause : ExceptT ε (StateM σ) α) (.error cause) :=
  steady_lift (.error cause)

namespace Steady

variable {make : ExceptT ε (StateM σ) α} {next : α → ExceptT ε (StateM σ) β}
  {outcome : Except ε α} {value : α}

theorem bind (h : Steady kept make outcome) (result : α → Except ε β)
    (hnext : ∀ value, outcome = .ok value → Steady kept (next value) (result value)) :
    Steady kept (make >>= next) (outcome >>= result) := by
  intro memory hmemory
  obtain ⟨houtcome, hleft⟩ := h memory hmemory
  rw [outcomeFrom_bind]
  cases hmake : outcomeFrom make memory with
  | mk first left =>
      rw [hmake] at houtcome hleft
      subst houtcome
      cases first with
      | error cause => exact ⟨rfl, hleft⟩
      | ok value => exact hnext value rfl left hleft

theorem bind_ok {result : Except ε β} (h : Steady kept make (.ok value))
    (hnext : Steady kept (next value) result) : Steady kept (make >>= next) result := by
  refine h.bind (fun _ => result) fun other hother => ?_
  rwa [← Except.ok.inj hother]

theorem bind_error {cause : ε} (h : Steady kept make (.error cause)) :
    Steady kept (make >>= next) (.error cause) :=
  h.bind (fun _ => .error cause) fun _ hok => by cases hok

theorem mapM {step : α → ExceptT ε (StateM σ) β} {result : α → Except ε β} {items : List α}
    (h : ∀ item ∈ items, Steady kept (step item) (result item)) :
    Steady kept (items.mapM step) (items.mapM result) := by
  induction items with
  | nil => exact steady_pure []
  | cons item rest ih =>
      rw [List.forall_mem_cons] at h
      rw [List.mapM_cons, List.mapM_cons]
      refine h.1.bind _ fun first _ => ?_
      exact (ih h.2).bind _ fun others _ => steady_pure (first :: others)

theorem mapM_ok {step : α → ExceptT ε (StateM σ) β} {items : List α} {results : List β}
    (h : List.Forall₂ (fun item result => Steady kept (step item) (.ok result)) items results) :
    Steady kept (items.mapM step) (.ok results) := by
  induction h with
  | nil => exact steady_pure []
  | cons hfirst _ ih =>
      rw [List.mapM_cons]
      exact hfirst.bind_ok (ih.bind_ok (steady_pure _))

theorem tryCatch {handle : ε → ExceptT ε (StateM σ) α} (h : Steady kept make outcome)
    (result : ε → Except ε α)
    (hhandle : ∀ cause, outcome = .error cause → Steady kept (handle cause) (result cause)) :
    Steady kept (MonadExcept.tryCatch make handle) (MonadExcept.tryCatch outcome result) := by
  intro memory hmemory
  obtain ⟨houtcome, hleft⟩ := h memory hmemory
  have hrun : outcomeFrom (MonadExcept.tryCatch make handle) memory
      = match outcomeFrom make memory with
        | (.ok value, left) => (.ok value, left)
        | (.error cause, left) => outcomeFrom (handle cause) left := by
    unfold outcomeFrom
    simp only [MonadExcept.tryCatch, tryCatchThe, MonadExceptOf.tryCatch, ExceptT.tryCatch,
      ExceptT.mk, ExceptT.run, Bind.bind, StateT.bind, StateT.run]
    cases make memory with
    | mk outcome left => cases outcome <;> rfl
  rw [hrun]
  cases hmake : outcomeFrom make memory with
  | mk first left =>
      rw [hmake] at houtcome hleft
      subst houtcome
      cases first with
      | error cause => exact hhandle cause rfl left hleft
      | ok value => exact ⟨rfl, hleft⟩

theorem adapt (h : Steady kept make outcome) (wrap : ε → ε') :
    Steady kept (make.adapt wrap) (outcome.mapError wrap) := by
  intro memory hmemory
  obtain ⟨houtcome, hleft⟩ := h memory hmemory
  have hrun : outcomeFrom (make.adapt wrap) memory
      = ((outcomeFrom make memory).1.mapError wrap, (outcomeFrom make memory).2) := rfl
  rw [hrun, houtcome]
  exact ⟨rfl, hleft⟩

end Steady

end RecordDocs
