import DataAccess.Proofs.Evaluation.Equations

/-!
# Exchanges with the connection

A generated method that talks to the connection sends one request and computes its result from the
answer, and the answer does not depend on the request. `exchange` is that shape: a request prepared
by pure steps, recorded, and a result found by pure steps. Whatever such code ends with, the log
grows by the prepared request or stays as it is.
-/

namespace DataAccess.Evaluation

open Code

/-- Whether a value takes requests of a kind: only the connection does. -/
def takesRequest (kind : RequestKind) : Value → Except EvalError Unit
  | .connection => .ok ()
  | other => .error (.unsupportedCall (other.kind ++ "." ++ kind.method))

/-- What the connection answers to a request of a kind. -/
def Surroundings.answer (around : Surroundings) : RequestKind → Value
  | .query => .list (around.rows.map Value.ofRow)
  | .execute => .int around.affected

/-- A call of a request method records the request if the value takes it. -/
theorem callOn_method (around : Surroundings) (target : Value) (kind : RequestKind) (sql : String)
    (params : List Value) :
    callOn around target kind.method [.text sql, .list params] = (do
      settled (takesRequest kind target)
      modify (· ++ [{ kind, sql, params }])
      pure (around.answer kind)) := by
  cases target with
  | connection => cases kind <;> rfl
  | _ => simp only [callOn, takesRequest, settled_error, throw_bind]

section Exchange

variable {α β : Type}

/-- Code that prepares one request, records it, and finds its result. -/
def exchange (prepared : Except EvalError Request) (result : Except EvalError α) : Eval α := do
  let request ← settled prepared
  modify (· ++ [request])
  settled result

theorem settled_bind_exchange (step : Except EvalError β) (prepare : β → Except EvalError Request)
    (result : Except EvalError α) :
    (settled step >>= fun value => exchange (prepare value) result) =
      exchange (step >>= prepare) result := by
  simp only [exchange, settled_bind, bind_assoc]

theorem exchange_bind_pure (prepared : Except EvalError Request) (result : Except EvalError β)
    (view : β → α) :
    (exchange prepared result >>= fun value => pure (view value)) =
      exchange prepared (view <$> result) := by
  simp only [exchange, bind_assoc, map_eq_pure_bind, settled_bind, settled_pure]

/-- What is seen of the result of an exchange is the result of an exchange. -/
theorem map_exchange (prepared : Except EvalError Request) (result : Except EvalError β)
    (view : β → α) :
    view <$> exchange prepared result = exchange prepared (view <$> result) := by
  rw [map_eq_pure_bind]
  exact exchange_bind_pure prepared result view

/-- What finds its result from the answer by pure steps is an exchange with that result. -/
theorem exchange_pure_bind {prepared : Except EvalError Request} {answer : β}
    {next : β → Eval α} {result : Except EvalError α} (finds : next answer = settled result) :
    (exchange prepared (pure answer) >>= next) = exchange prepared result := by
  simp only [exchange, settled_pure, bind_assoc, pure_bind, finds]

/-- A call of a request method is an exchange: its target and its bound values are evaluated, and
the connection is asked. -/
theorem evalExpr_request {around : Surroundings} {frame : Frame} {target params : Expr}
    {sql : String} {holder : Except EvalError Value} {given : Except EvalError (List Value)}
    (kind : RequestKind) (held : evalExpr around frame target = settled holder)
    (text : lookup frame "sql" = pure (.text sql))
    (bound : evalExpr around frame params = settled (Value.list <$> given)) :
    evalExpr around frame (.await (.call target kind.method [.var "sql", params])) =
      exchange (do
          let link ← holder
          let values ← given
          takesRequest kind link
          pure { kind, sql, params := values })
        (pure (around.answer kind)) := by
  simp only [evalExpr, evalAll, held, text, bound, pure_bind, bind_assoc, exchange, settled_bind,
    map_eq_pure_bind, settled_pure, callOn_method]

theorem exchange_apply_of_error {prepared : Except EvalError Request} {failure : EvalError}
    (failed : prepared = .error failure) (result : Except EvalError α) (log : Log) :
    exchange prepared result log = .error failure log := by
  subst failed
  rfl

theorem exchange_apply_of_ok {prepared : Except EvalError Request} {request : Request}
    (ready : prepared = .ok request) (result : Except EvalError α) (log : Log) :
    exchange prepared result log = settled result (log ++ [request]) := by
  subst ready
  rfl

end Exchange

end DataAccess.Evaluation
