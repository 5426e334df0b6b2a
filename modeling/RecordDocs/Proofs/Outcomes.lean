import Mathlib.Data.List.Forall2

/-!
# Outcomes of steps that may fail

A computation of several steps has a result only if each of its steps has one. These are the laws
that take such a computation apart, one for each way in which steps are put together.
-/

namespace RecordDocs

variable {ε ε' α β : Type} {outcome : Except ε α}

theorem not_exists_error_eq_ok {cause : ε} :
    ¬ ∃ value : α, (.error cause : Except ε α) = .ok value := by
  rintro ⟨_, h⟩
  cases h

theorem eq_ok_of_toOption {value : α} (h : outcome.toOption = some value) :
    outcome = .ok value := by
  cases outcome with
  | error cause => cases h
  | ok found => exact congrArg Except.ok (Option.some.inj h)

theorem map_eq_ok {next : α → β} {result : β} (h : outcome.map next = .ok result) :
    ∃ value, outcome = .ok value ∧ next value = result := by
  cases outcome with
  | error cause => cases h
  | ok value => exact ⟨value, rfl, Except.ok.inj h⟩

theorem mapError_eq_ok {wrap : ε → ε'} {value : α} (h : outcome.mapError wrap = .ok value) :
    outcome = .ok value := by
  cases outcome with
  | error cause => cases h
  | ok found =>
      cases h
      rfl

theorem mapError_eq_error {wrap : ε → ε'} {cause : ε'} (h : outcome.mapError wrap = .error cause) :
    ∃ failure, outcome = .error failure ∧ wrap failure = cause := by
  cases outcome with
  | error failure => exact ⟨failure, rfl, Except.error.inj h⟩
  | ok value => cases h

theorem ok_bind (value : α) (next : α → Except ε β) :
    (.ok value : Except ε α) >>= next = next value :=
  rfl

theorem bind_eq_ok {next : α → Except ε β} {result : β} (h : outcome >>= next = .ok result) :
    ∃ value, outcome = .ok value ∧ next value = .ok result := by
  cases outcome with
  | error cause => cases h
  | ok value => exact ⟨value, rfl, h⟩

theorem forall₂_of_mapM_eq_ok {step : α → Except ε β} {items : List α} {results : List β}
    (h : items.mapM step = .ok results) :
    List.Forall₂ (fun item result => step item = .ok result) items results := by
  induction items generalizing results with
  | nil =>
      cases h
      exact .nil
  | cons item rest ih =>
      rw [List.mapM_cons] at h
      obtain ⟨first, hfirst, h⟩ := bind_eq_ok h
      obtain ⟨others, hothers, h⟩ := bind_eq_ok h
      cases h
      exact .cons hfirst (ih hothers)

theorem mapM_eq_ok_of_forall₂ {step : α → Except ε β} {items : List α} {results : List β}
    (h : List.Forall₂ (fun item result => step item = .ok result) items results) :
    items.mapM step = .ok results := by
  induction h with
  | nil => rfl
  | cons hfirst _ ih =>
      rw [List.mapM_cons, hfirst, ok_bind, ih, ok_bind]
      rfl

theorem exists_mem_of_forall₂ {R : α → β → Prop} {items : List α} {results : List β}
    (h : List.Forall₂ R items results) {result : β} (hmem : result ∈ results) :
    ∃ item ∈ items, R item result := by
  induction h with
  | nil => cases hmem
  | cons hfirst _ ih =>
      rcases List.mem_cons.mp hmem with rfl | hrest
      · exact ⟨_, List.mem_cons_self, hfirst⟩
      · obtain ⟨item, hitem, hrelated⟩ := ih hrest
        exact ⟨item, List.mem_cons_of_mem _ hitem, hrelated⟩

theorem exists_forall₂ {R : α → β → Prop} {items : List α}
    (h : ∀ item ∈ items, ∃ result, R item result) : ∃ results, List.Forall₂ R items results := by
  induction items with
  | nil => exact ⟨[], .nil⟩
  | cons item rest ih =>
      rw [List.forall_mem_cons] at h
      obtain ⟨first, hfirst⟩ := h.1
      obtain ⟨others, hothers⟩ := ih h.2
      exact ⟨first :: others, .cons hfirst hothers⟩

end RecordDocs
