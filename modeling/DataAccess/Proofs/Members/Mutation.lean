import DataAccess.Members.Mutators
import DataAccess.Proofs.Evaluation.Exchange
import DataAccess.Proofs.Members.Values

/-!
# Mutators as exchanges

A mutator binds properties of its object, column by column, into its statement, sends it once and
tells whether any row was affected. The object stays as it is (`Plan.invoke_mutator`).
-/

namespace DataAccess.Members

open Code Schema Evaluation

namespace Plan

/-- The connection that a mutator uses: the one of the object in the bound family, else the first
argument. -/
def mutatorLink (plan : Plan) (name : String) (this : Value) (args : List Value) :
    Except EvalError Value :=
  if plan.isBound then fieldIn connectionName this
  else
    match args with
    | link :: _ => .ok link
    | [] => .error (.missingArgument name connectionName)

/-- What is bound for a column of an object. -/
def boundProperty (plan : Plan) (this : Value) (column : Column) : Except EvalError Value := do
  boundAs column (← fieldIn (plan.propertyName column) this)

/-- The request that a mutator over columns prepares. -/
def mutation (plan : Plan) (name : String) (statement : Sql.Statement) (columns : List Column)
    (this : Value) (args : List Value) : Except EvalError Request := do
  let link ← plan.mutatorLink name this args
  let params ← columns.mapM (plan.boundProperty this)
  takesRequest .execute link
  pure { kind := .execute, sql := plan.sql statement, params }

variable {plan : Plan} {around : Surroundings}

/-- Mutators of unbound objects take the connection as their parameter. -/
theorem bindParams_mutator (plan : Plan) (around : Surroundings) (name : String) (this : Value)
    (args : List Value) :
    (∃ frame, bindParams around name plan.mutatorParams args { this := some this } = pure frame ∧
        frame.this = some this ∧
        ∀ changed : Frame, changed.this = frame.this →
          lookup changed connectionName = lookup frame connectionName →
          evalExpr around changed plan.ownConnection =
            settled (plan.mutatorLink name this args)) ∨
      ∃ failure, bindParams around name plan.mutatorParams args { this := some this } =
          throw failure ∧
        plan.mutatorLink name this args = .error failure := by
  cases bound : plan.isBound with
  | true =>
      refine Or.inl ⟨{ this := some this }, ?_, rfl, fun changed same _ => ?_⟩
      · rw [mutatorParams, bound, if_pos rfl, bindParams]
      · simp only [ownConnection, mutatorLink, bound, ↓reduceIte, evalExpr_field_this same,
          fieldOf_eq]
  | false =>
      have params : plan.mutatorParams = [connectionParam] := by
        rw [mutatorParams, bound]
        rfl
      cases args with
      | nil =>
          refine Or.inr ⟨.missingArgument name connectionName, ?_, ?_⟩
          · rw [params]
            rfl
          · rw [mutatorLink, bound]
            rfl
      | cons link rest =>
          refine Or.inl ⟨Frame.set { this := some this } connectionName link, ?_, rfl,
            fun changed _ same => ?_⟩
          · rw [params]
            rfl
          · rw [lookup_set_self] at same
            simp only [ownConnection, mutatorLink, bound, Bool.false_eq_true, ↓reduceIte, evalExpr,
              same, settled_ok]

/-- The properties of the receiver evaluate to what is bound for their columns. -/
theorem evalAll_propertyArgs {frame : Frame} {this : Value} (received : frame.this = some this)
    (columns : List Column) :
    evalAll around frame (plan.propertyArgs columns) =
      settled (columns.mapM (plan.boundProperty this)) := by
  refine evalAll_map fun column _ => ?_
  have held : evalExpr around frame (.field .this (plan.propertyName column)) =
      settled (fieldIn (plan.propertyName column) this) := by
    rw [evalExpr_field_this received, fieldOf_eq]
  exact evalExpr_writtenValue held

/-- **A mutator sends one statement with the bound columns of its object**, and tells whether the
statement affected any row. -/
theorem invoke_mutator (name description : String) (statement : Sql.Statement)
    (columns : List Column) (this : Value) (args : List Value) :
    invoke around (plan.mutator name description statement (plan.propertyArgs columns)) (some this)
        args =
      exchange (plan.mutation name statement columns this args)
        (pure (.bool (decide (0 < around.affected)), some this)) := by
  rw [invoke_eq (Or.inr rfl)]
  rcases bindParams_mutator plan around name this args with
    ⟨frame, binds, received, connected⟩ | ⟨failure, fails, missing⟩
  · let ready := frame.set "sql" (.text (plan.sql statement))
    have text : lookup ready "sql" = pure (.text (plan.sql statement)) :=
      lookup_set_self frame "sql" _
    have held : evalExpr around ready plan.ownConnection =
        settled (plan.mutatorLink name this args) :=
      connected ready rfl (lookup_set_of_ne (by decide) frame _)
    have readyReceived : ready.this = some this := received
    have params : evalExpr around ready (.list (plan.propertyArgs columns)) =
        settled (Value.list <$> columns.mapM (plan.boundProperty this)) := by
      simp only [evalExpr, evalAll_propertyArgs readyReceived, map_eq_pure_bind, settled_bind,
        settled_pure]
    refine (congrArg (· >>= _) binds).trans ?_
    rw [pure_bind, mutator, runBody_declare, evalExpr, pure_bind, runBody_declare]
    refine (congrArg (· >>= _) (evalExpr_request .execute held text params)).trans ?_
    refine exchange_pure_bind ?_
    simp only [runBody_result, evalExpr, lookup_set_self, pure_bind, Surroundings.answer,
      isGreater_zero, isPositive_int]
    rw [Frame.this_set, Frame.this_set, received]
    rfl
  · refine (congrArg (· >>= _) fails).trans ?_
    rw [throw_bind, mutation, missing]
    rfl

/-- Writing back is a mutator over all columns and the columns of the key. -/
theorem updateMutator_eq (plan : Plan) :
    plan.updateMutator =
      plan.mutator "update" "Write this record back." plan.writeBack
        (plan.propertyArgs (plan.table.columns ++ plan.table.primaryColumns)) := by
  rw [updateMutator, propertyArgs, propertyArgs, propertyArgs, List.map_append]

end Plan

end DataAccess.Members
