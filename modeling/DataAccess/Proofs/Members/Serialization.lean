import DataAccess.Proofs.Members.Values

/-!
# Serialized objects

Serializing an object writes the property of every column under the key of the column, with moments
as text, and sends nothing (`Plan.invoke_serialize`).
-/

namespace DataAccess.Members

open Code Schema Evaluation

namespace Plan

/-- The entry of a column in a serialized object. -/
def serializedEntry (plan : Plan) (this : Value) (column : Column) :
    Except EvalError (String × Value) := do
  let held ← fieldIn (plan.propertyName column) this
  let written ← writtenAs .iso column held
  pure (plan.serializedKey column, written)

def serialized (plan : Plan) (this : Value) : Except EvalError Value := do
  let entries ← plan.table.columns.mapM (plan.serializedEntry this)
  pure (.map (Entries.ofList entries))

variable {plan : Plan} {around : Surroundings} {frame : Frame} {this : Value}

theorem evalEntries_serialized (received : frame.this = some this) (columns : List Column) :
    evalEntries around frame
        (columns.map fun column => (plan.serializedKey column, plan.serializedValue column)) =
      settled (columns.mapM (plan.serializedEntry this)) := by
  induction columns with
  | nil => simp only [List.map_nil, evalEntries, List.mapM_nil, settled_pure]
  | cons column rest ih =>
      have held : evalExpr around frame (.field .this (plan.propertyName column)) =
          settled (fieldIn (plan.propertyName column) this) := by
        rw [evalExpr_field_this received, fieldOf_eq]
      have value : evalExpr around frame (plan.serializedValue column) =
          settled (fieldIn (plan.propertyName column) this >>= writtenAs .iso column) :=
        evalExpr_writtenValue held
      simp only [List.map_cons, evalEntries, evalEntry, value, ih, List.mapM_cons,
        serializedEntry, bind_assoc, settled_bind, settled_pure, pure_bind]

/-- **Serializing an object computes its serialized form.** -/
theorem invoke_serialize (plan : Plan) (around : Surroundings) (this : Value) (args : List Value) :
    invoke around plan.serialize (some this) args =
      settled (do
        let form ← plan.serialized this
        pure (form, some this)) := by
  have received : ({ this := some this } : Frame).this = some this := rfl
  have binds : bindParams around "serialize" [] args { this := some this } =
      pure { this := some this } := by
    rw [bindParams]
  rw [invoke_eq (Or.inr rfl)]
  refine (congrArg (· >>= _) binds).trans ?_
  rw [pure_bind, serialize, runBody_result, evalExpr, evalEntries_serialized received, serialized]
  simp only [bind_assoc, settled_bind, settled_pure, pure_bind]

end Plan

end DataAccess.Members
