import RecordDocs.Command.Run
import RecordDocs.Proofs.FileChanges

/-!
# Steps of a run

A run is made of steps, and what a step has done stays done when a later one fails. A quiet step
neither prints nor changes a file, and neither do quiet steps that are put together. Of the steps
that are not quiet, printing a text does nothing if the text is refused, printing lines goes on up
to the first that is, and a change of the files leaves what it leaves.
-/

namespace RecordDocs.Command

theorem Output.refusal?_of_encodes (output : Output) {text : String}
    (h : Text.firstSurrogates? text.toList = none) : output.refusal? text = none := by
  cases output with
  | text => rfl
  | stream => exact h

namespace Step

variable {α β : Type} {step : Step α} {next : α → Step β} {before after : Progress}

/-! ### Putting steps together -/

theorem run_bind (step : Step α) (next : α → Step β) (before : Progress) :
    (step >>= next).run before = match step.run before with
      | (.ok value, middle) => (next value).run middle
      | (.error cause, middle) => (.error cause, middle) := by
  change (match step.run before with
    | (result, progress) => ExceptT.bindCont next result progress) = _
  cases step.run before with
  | mk result middle => cases result <;> rfl

theorem run_bind_of_ok {value : α} (h : step.run before = (.ok value, after)) :
    (step >>= next).run before = (next value).run after := by
  rw [run_bind, h]

theorem run_bind_of_error {cause : RunError} (h : step.run before = (.error cause, after)) :
    (step >>= next).run before = (.error cause, after) := by
  rw [run_bind, h]

theorem run_get (before : Progress) :
    (get : Step Progress).run before = (.ok before, before) :=
  rfl

theorem run_bind_eq_ok {result : β} (h : (step >>= next).run before = (.ok result, after)) :
    ∃ value middle, step.run before = (.ok value, middle) ∧
      (next value).run middle = (.ok result, after) := by
  cases hstep : step.run before with
  | mk outcome middle =>
      cases outcome with
      | ok value =>
          rw [run_bind_of_ok hstep] at h
          exact ⟨value, middle, rfl, h⟩
      | error cause =>
          rw [run_bind_of_error hstep] at h
          cases h

/-- Of two steps that end badly either the first failed, or the second after the first. -/
theorem run_bind_eq_error {cause : RunError}
    (h : (step >>= next).run before = (.error cause, after)) :
    step.run before = (.error cause, after) ∨
      ∃ value middle, step.run before = (.ok value, middle) ∧
        (next value).run middle = (.error cause, after) := by
  cases hstep : step.run before with
  | mk outcome middle =>
      cases outcome with
      | ok value =>
          rw [run_bind_of_ok hstep] at h
          exact .inr ⟨value, middle, rfl, h⟩
      | error failure =>
          rw [run_bind_of_error hstep] at h
          cases h
          exact .inl rfl

theorem run_report (messages : List Logging.Message) (before : Progress) :
    (report messages).run before
      = (.ok (), { before with messages := before.messages ++ messages }) :=
  rfl

theorem run_print_of_none {output : Output} {text : String} (h : output.refusal? text = none)
    (before : Progress) : (print output text).run before
      = (.ok (), { before with stdout := before.stdout ++ text }) := by
  rw [print, h]
  rfl

theorem run_print_of_some {output : Output} {text : String} {run : Text.SurrogateRun}
    (h : output.refusal? text = some run) (before : Progress) :
    (print output text).run before = (.error (.output run), before) := by
  rw [print, h]
  rfl

theorem tree_eq_of_run_print {output : Output} {text : String}
    (h : (print output text).run before = (.ok (), after)) : after.tree = before.tree := by
  cases hrefused : output.refusal? text with
  | none =>
      rw [run_print_of_none hrefused] at h
      cases h
      rfl
  | some run =>
      rw [run_print_of_some hrefused] at h
      cases h

theorem run_ofResult (result : Except RunError α) (before : Progress) :
    (ofResult result).run before = (result, before) :=
  rfl

theorem run_changeFiles (change : FileTree → FileTree.Change) (before : Progress) :
    (changeFiles change).run before
      = ((change before.tree).2.mapError .file, { before with tree := (change before.tree).1 }) :=
  rfl

/-! ### Quiet steps -/

/-- Whether it ends well or not, the step has neither printed nor changed a file. -/
def Quiet (step : Step α) : Prop :=
  ∀ before, (step.run before).2.stdout = before.stdout ∧ (step.run before).2.tree = before.tree

theorem quiet_pure (value : α) : Quiet (pure value) :=
  fun _ => ⟨rfl, rfl⟩

theorem quiet_get : Quiet get :=
  fun _ => ⟨rfl, rfl⟩

theorem quiet_throw (cause : RunError) : Quiet (throw cause : Step α) :=
  fun _ => ⟨rfl, rfl⟩

theorem quiet_report (messages : List Logging.Message) : Quiet (report messages) :=
  fun _ => ⟨rfl, rfl⟩

theorem quiet_ofResult (result : Except RunError α) : Quiet (ofResult result) :=
  fun _ => ⟨rfl, rfl⟩

theorem Quiet.bind (hstep : Quiet step) (hnext : ∀ value, Quiet (next value)) :
    Quiet (step >>= next) := by
  intro before
  obtain ⟨hstdout, htree⟩ := hstep before
  cases hrun : step.run before with
  | mk outcome middle =>
      rw [hrun] at hstdout htree
      cases outcome with
      | ok value =>
          rw [run_bind_of_ok hrun]
          obtain ⟨hnextStdout, hnextTree⟩ := hnext value middle
          exact ⟨hnextStdout.trans hstdout, hnextTree.trans htree⟩
      | error cause =>
          rw [run_bind_of_error hrun]
          exact ⟨hstdout, htree⟩

theorem Quiet.of_run_eq {outcome : Except RunError α} (h : Quiet step)
    (hrun : step.run before = (outcome, after)) :
    after.stdout = before.stdout ∧ after.tree = before.tree := by
  have hquiet := h before
  rw [hrun] at hquiet
  exact hquiet

/-! ### Steps that show -/

def lines (names : List String) : String :=
  String.join (names.map (· ++ "\n"))

theorem lines_cons (name : String) (rest : List String) :
    lines (name :: rest) = name ++ "\n" ++ lines rest := by
  rw [lines, List.map_cons, String.join_cons, lines]

/-- Lines that cannot all be printed have been printed up to the first that is refused. -/
theorem printLines_failed {output : Output} {names : List String} {cause : RunError}
    (h : (printLines output names).run before = (.error cause, after)) :
    ∃ printed name rest run, names = printed ++ name :: rest ∧
      (∀ line ∈ printed, output.refusal? (line ++ "\n") = none) ∧
      output.refusal? (name ++ "\n") = some run ∧ cause = .output run ∧
      after.stdout = before.stdout ++ lines printed ∧ after.tree = before.tree := by
  induction names generalizing before with
  | nil => cases h
  | cons name others ih =>
      rw [printLines] at h
      cases hrefused : output.refusal? (name ++ "\n") with
      | some run =>
          rw [run_bind_of_error (run_print_of_some hrefused before)] at h
          cases h
          exact ⟨[], name, others, run, rfl, List.forall_mem_nil _, hrefused, rfl,
            String.append_empty.symm, rfl⟩
      | none =>
          rw [run_bind_of_ok (run_print_of_none hrefused before)] at h
          obtain ⟨printed, refused, rest, run, rfl, htaken, hrun, rfl, hstdout, htree⟩ := ih h
          refine ⟨name :: printed, refused, rest, run, rfl,
            List.forall_mem_cons.mpr ⟨hrefused, htaken⟩, hrun, rfl, ?_, htree⟩
          rw [hstdout, lines_cons, String.append_assoc]

/-- A change of the files fails as the change itself does, and leaves the tree as it does. -/
theorem run_changeFiles_eq_error {change : FileTree → FileTree.Change} {cause : RunError}
    (h : (changeFiles change).run before = (.error cause, after)) :
    ∃ failure, change before.tree = (after.tree, .error failure) ∧ cause = .file failure ∧
      after.stdout = before.stdout := by
  rw [run_changeFiles, Prod.mk.injEq] at h
  obtain ⟨hresult, rfl⟩ := h
  obtain ⟨failure, hfailure, rfl⟩ := mapError_eq_error hresult
  exact ⟨failure, Prod.ext rfl hfailure, rfl, rfl⟩

theorem run_changeFiles_eq_ok {change : FileTree → FileTree.Change}
    (h : (changeFiles change).run before = (.ok (), after)) :
    change before.tree = (after.tree, .ok ()) ∧ after.stdout = before.stdout := by
  rw [run_changeFiles, Prod.mk.injEq] at h
  obtain ⟨hresult, rfl⟩ := h
  exact ⟨Prod.ext rfl (mapError_eq_ok hresult), rfl⟩

end Step

/-! ### Outcomes -/

section

variable {installation : Installation} {tree : FileTree} {invocation : Invocation}

theorem run_eq_ok_some {outcome : Outcome} {code : Nat}
    (h : invocation.run installation tree = .ok outcome) (hcode : outcome.exitCode = some code) :
    ∃ cause progress, invocation.execute installation tree = (.error cause, progress) ∧
      cause.isReported ∧ outcome.stdout = progress.stdout ∧ outcome.tree = progress.tree := by
  rw [Invocation.run] at h
  cases hexecute : invocation.execute installation tree with
  | mk result progress =>
      rw [hexecute] at h
      dsimp only at h
      cases result with
      | ok value =>
          cases h
          cases hcode
      | error cause =>
          rw [Progress.outcome] at h
          by_cases hreported : cause.isReported
          · rw [if_pos hreported] at h
            cases h
            exact ⟨cause, progress, rfl, hreported, rfl, rfl⟩
          · rw [if_neg hreported] at h
            cases h

theorem run_eq_ok_none {outcome : Outcome}
    (h : invocation.run installation tree = .ok outcome) (hcode : outcome.exitCode = none) :
    ∃ progress, invocation.execute installation tree = (.ok (), progress) ∧
      outcome.stdout = progress.stdout ∧ outcome.tree = progress.tree := by
  rw [Invocation.run] at h
  cases hexecute : invocation.execute installation tree with
  | mk result progress =>
      rw [hexecute] at h
      dsimp only at h
      cases result with
      | ok value =>
          cases h
          exact ⟨progress, rfl, rfl, rfl⟩
      | error cause =>
          rw [Progress.outcome] at h
          split at h
          · cases h
            cases hcode
          · cases h

theorem run_of_execute_eq_ok {progress : Progress}
    (h : invocation.execute installation tree = (.ok (), progress)) :
    ∃ outcome, invocation.run installation tree = .ok outcome ∧ outcome.exitCode = none ∧
      outcome.stdout = progress.stdout ∧ outcome.tree = progress.tree := by
  rw [Invocation.run, h]
  exact ⟨_, rfl, rfl, rfl, rfl⟩

end

end RecordDocs.Command
