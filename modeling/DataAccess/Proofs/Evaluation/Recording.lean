import DataAccess.Proofs.Evaluation.Exchange

/-!
# What running code records

Running code of a generated method records nothing, or it records one request. `Records` says so of
running code, together with a property of the request and of what the code ends with.
-/

namespace DataAccess.Evaluation

/-- Running code that records nothing or one request, and a request only with a good end. -/
def Records {α : Type} (good : Request → Except EvalError α → Prop) (run : Eval α) : Prop :=
  ∀ before, ∃ outcome, run before = settled outcome before ∨
    ∃ request, good request outcome ∧ run before = settled outcome (before ++ [request])

variable {α β : Type} {good : Request → Except EvalError α → Prop}

/-- What is done with the value of a run does not touch what the run records. -/
theorem Records.map {run : Eval β} {view : β → α}
    (records : Records (fun request outcome => good request (view <$> outcome)) run) :
    Records good (run >>= fun value => pure (view value)) := by
  intro before
  have through {outcome : Except EvalError β} {after : Log}
      (ran : run before = settled outcome after) :
      (run >>= fun value => pure (view value)) before = settled (view <$> outcome) after := by
    simp only [bind, EStateM.bind, ran]
    cases outcome with
    | ok value => rfl
    | error failure => rfl
  obtain ⟨outcome, silent | ⟨request, holds, sent⟩⟩ := records before
  · exact ⟨view <$> outcome, Or.inl (through silent)⟩
  · exact ⟨view <$> outcome, Or.inr ⟨request, holds, through sent⟩⟩

end DataAccess.Evaluation
