import DataAccess.Proofs.Evaluation.Exchange

/-!
# Failures of data

Running code can fail because a value is of another kind than the code expects, or because a text
spells no timestamp. Both depend on the data that the code is given. All other failures are
failures of the code itself. `Settles` says of a pure step, and `Proceeds` of running code, that it
ends well or fails on data; both are kept by putting steps together.
-/

namespace DataAccess.Evaluation

/-- A failure that depends on the data. -/
inductive EvalError.IsOfData : EvalError → Prop where
  | typeMismatch (expected : Expectation) (found : String) : IsOfData (.typeMismatch expected found)
  | invalidTimestamp (text : String) : IsOfData (.invalidTimestamp text)

/-- A step that gives a good value or fails on data. -/
inductive Settles {α : Type} (good : α → Prop) : Except EvalError α → Prop where
  | value {value : α} (holds : good value) : Settles good (.ok value)
  | failure {failure : EvalError} (data : failure.IsOfData) : Settles good (.error failure)

/-- The end of running code: a good value, or a failure on data. -/
inductive EndsWell {α : Type} (good : α → Prop) : EStateM.Result EvalError Log α → Prop where
  | value {value : α} {log : Log} (holds : good value) : EndsWell good (.ok value log)
  | failure {failure : EvalError} {log : Log} (data : failure.IsOfData) :
      EndsWell good (.error failure log)

/-- Running code that ends well, whatever was recorded before. -/
def Proceeds {α : Type} (good : α → Prop) (run : Eval α) : Prop :=
  ∀ before, EndsWell good (run before)

section Settles

variable {α β : Type} {good : β → Prop} {middle : α → Prop}

theorem Settles.bind {step : Except EvalError α} {next : α → Except EvalError β}
    (first : Settles middle step) (later : ∀ value, middle value → Settles good (next value)) :
    Settles good (step >>= next) := by
  cases first with
  | value holds => exact later _ holds
  | failure data => exact .failure data

theorem Settles.mapM {step : α → Except EvalError β} {items : List α}
    (each : ∀ item ∈ items, Settles good (step item)) :
    Settles (fun values => ∀ value ∈ values, good value) (items.mapM step) := by
  induction items with
  | nil => exact .value fun value member => absurd member List.not_mem_nil
  | cons item rest ih =>
      rw [List.mapM_cons]
      refine (each item List.mem_cons_self).bind fun value holds => ?_
      refine (ih fun other member => each other (List.mem_cons_of_mem _ member)).bind
        fun values hold => .value fun other member => ?_
      rcases List.mem_cons.mp member with rfl | inRest
      · exact holds
      · exact hold other inRest

theorem Settles.imp {weaker : α → Prop} {step : Except EvalError α} (settles : Settles middle step)
    (weaken : ∀ value, middle value → weaker value) : Settles weaker step := by
  cases settles with
  | value holds => exact .value (weaken _ holds)
  | failure data => exact .failure data

end Settles

section Proceeds

variable {α β : Type} {good : β → Prop} {middle : α → Prop}

theorem EndsWell.imp {weaker : α → Prop} {result : EStateM.Result EvalError Log α}
    (ends : EndsWell middle result) (weaken : ∀ value, middle value → weaker value) :
    EndsWell weaker result := by
  cases ends with
  | value holds => exact .value (weaken _ holds)
  | failure data => exact .failure data

theorem Proceeds.settled {step : Except EvalError α} (settles : Settles middle step) :
    Proceeds middle (settled step) := by
  intro before
  rw [settled_apply]
  cases settles with
  | value holds => exact .value holds
  | failure data => exact .failure data

/-- An exchange ends well if its request is prepared and its result found without failures of the
code. -/
theorem Proceeds.exchange {prepared : Except EvalError Request} {result : Except EvalError α}
    (prepares : Settles (fun _ => True) prepared) (finds : Settles middle result) :
    Proceeds middle (exchange prepared result) := by
  intro before
  cases prepares with
  | failure data =>
      rw [exchange_apply_of_error rfl]
      exact .failure data
  | value _ =>
      rw [exchange_apply_of_ok rfl]
      cases finds with
      | value holds => exact .value holds
      | failure data => exact .failure data

theorem Proceeds.map {run : Eval α} {view : α → β} (proceeds : Proceeds middle run)
    (holds : ∀ value, middle value → good (view value)) :
    Proceeds good (run >>= fun value => pure (view value)) := by
  intro before
  have ends := proceeds before
  cases outcome : run before with
  | ok value after =>
      rw [outcome] at ends
      cases ends with
      | value goodValue =>
          have ran : (run >>= fun value => pure (view value)) before = .ok (view value) after := by
            simp only [bind, EStateM.bind, outcome]
            rfl
          rw [ran]
          exact .value (holds value goodValue)
  | error failure after =>
      rw [outcome] at ends
      cases ends with
      | failure data =>
          have ran : (run >>= fun value => pure (view value)) before = .error failure after := by
            simp only [bind, EStateM.bind, outcome]
          rw [ran]
          exact .failure data

end Proceeds

end DataAccess.Evaluation
