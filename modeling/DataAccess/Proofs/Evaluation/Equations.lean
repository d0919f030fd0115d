import DataAccess.Evaluation.Run
import Mathlib.Data.List.Forall2

/-!
# Running code by equations

A method body runs statement by statement, and each statement has one equation here: what it
computes, and with which frame the rest of the body runs. Code whose steps are all pure is
`settled` from a computation without a log, and failing code drops whatever follows it. Later
modules rewrite generated bodies with these equations and unfold the evaluator no further.
-/

namespace DataAccess.Evaluation

open Code

section Settled

variable {α β : Type}

@[simp] theorem settled_ok (value : α) : settled (.ok value) = pure value := rfl

@[simp] theorem settled_error (failure : EvalError) :
    settled (.error failure : Except EvalError α) = throw failure := rfl

@[simp] theorem settled_pure (value : α) : settled (pure value) = pure value := rfl

@[simp] theorem throw_bind (failure : EvalError) (next : α → Eval β) :
    (throw failure >>= next : Eval β) = throw failure := rfl

@[simp] theorem ok_bind (value : α) (next : α → Except EvalError β) :
    (Except.ok value >>= next) = next value := rfl

/-- A computation in steps succeeds only where each step does. -/
theorem bind_eq_ok {step : Except EvalError α} {next : α → Except EvalError β} {result : β}
    (succeeds : (step >>= next) = .ok result) :
    ∃ value, step = .ok value ∧ next value = .ok result := by
  cases step with
  | ok value => exact ⟨value, rfl, succeeds⟩
  | error failure => cases succeeds

/-- Steps that cannot record are settled one after another. -/
@[simp] theorem settled_bind (step : Except EvalError α) (next : α → Except EvalError β) :
    settled (step >>= next) = settled step >>= fun value => settled (next value) := by
  cases step with
  | ok value => rfl
  | error failure => rfl

/-- Pure steps on the items of a list are one pure step. -/
theorem mapM_settled (step : α → Except EvalError β) (items : List α) :
    items.mapM (fun item => settled (step item)) = settled (items.mapM step) := by
  induction items with
  | nil => rfl
  | cons item rest ih =>
    rw [List.mapM_cons, List.mapM_cons, ih, settled_bind]
    refine bind_congr fun value => ?_
    rw [settled_bind]
    rfl

/-- Steps that agree on all items give the same list. -/
theorem mapM_congr {first second : α → Except EvalError β} {items : List α}
    (same : ∀ item ∈ items, first item = second item) : items.mapM first = items.mapM second := by
  induction items with
  | nil => rfl
  | cons item rest ih =>
      rw [List.mapM_cons, List.mapM_cons, same item List.mem_cons_self,
        ih fun other member => same other (List.mem_cons_of_mem _ member)]

/-- The results of steps can be viewed one by one or all together. -/
theorem map_mapM {γ : Type} (view : β → γ) (step : α → Except EvalError β) (items : List α) :
    List.map view <$> items.mapM step = items.mapM fun item => view <$> step item := by
  induction items with
  | nil => rfl
  | cons item rest ih =>
      rw [List.mapM_cons, List.mapM_cons, ← ih]
      simp only [map_eq_pure_bind, bind_assoc, pure_bind, List.map_cons]

/-- Results that are put beside names of their items stand beside all the names. -/
theorem mapM_zip {γ : Type} (name : α → γ) (step : α → Except EvalError β) (items : List α) :
    items.mapM (fun item => Prod.mk (name item) <$> step item) =
      (fun results => (items.map name).zip results) <$> items.mapM step := by
  induction items with
  | nil => rfl
  | cons item rest ih =>
      rw [List.mapM_cons, List.mapM_cons, ih]
      simp only [map_eq_pure_bind, bind_assoc, pure_bind, List.map_cons, List.zip_cons_cons]

/-- A list succeeds where the step on each item does. -/
theorem mapM_succeeds {step : α → Except EvalError β} {items : List α}
    (succeeds : ∀ item ∈ items, ∃ value, step item = .ok value) :
    ∃ values, items.mapM step = .ok values := by
  induction items with
  | nil => exact ⟨[], rfl⟩
  | cons item rest ih =>
      obtain ⟨value, now⟩ := succeeds item List.mem_cons_self
      obtain ⟨values, later⟩ := ih fun other member =>
        succeeds other (List.mem_cons_of_mem _ member)
      refine ⟨value :: values, ?_⟩
      rw [List.mapM_cons, now, later]
      rfl

/-- The results of steps on the items of a list stand at the places of their items. -/
theorem forall₂_of_mapM {step : α → Except EvalError β} {items : List α} {results : List β}
    (succeeds : items.mapM step = .ok results) :
    List.Forall₂ (fun item result => step item = .ok result) items results := by
  induction items generalizing results with
  | nil =>
      cases succeeds
      exact .nil
  | cons item rest ih =>
      rw [List.mapM_cons] at succeeds
      cases first : step item with
      | error failure =>
          rw [first] at succeeds
          cases succeeds
      | ok result =>
          cases later : rest.mapM step with
          | error failure =>
              rw [first, later] at succeeds
              cases succeeds
          | ok others =>
              rw [first, later] at succeeds
              cases succeeds
              exact .cons first (ih later)

/-- The results of the items are the results of the list. -/
theorem mapM_of_forall₂ {step : α → Except EvalError β} {items : List α} {results : List β}
    (each : List.Forall₂ (fun item result => step item = .ok result) items results) :
    items.mapM step = .ok results := by
  induction each with
  | nil => rfl
  | cons first _ ih =>
      rw [List.mapM_cons, first, ih]
      rfl

/-- Steps on the items of a list fail with the first item that fails. -/
theorem mapM_eq_error {step : α → Except EvalError β} {items : List α} {failure : EvalError}
    (fails : items.mapM step = .error failure) :
    ∃ front item back, items = front ++ item :: back ∧
      (∀ other ∈ front, ∃ result, step other = .ok result) ∧ step item = .error failure := by
  induction items with
  | nil => cases fails
  | cons item rest ih =>
      rw [List.mapM_cons] at fails
      cases first : step item with
      | error other =>
          rw [first] at fails
          cases fails
          exact ⟨[], item, rest, rfl, fun _ member => absurd member List.not_mem_nil, first⟩
      | ok result =>
          cases later : rest.mapM step with
          | ok results =>
              rw [first, later] at fails
              cases fails
          | error other =>
              rw [first, later] at fails
              cases fails
              obtain ⟨front, stuck, back, rfl, passed, failed⟩ := ih later
              refine ⟨item :: front, stuck, back, rfl, fun other member => ?_, failed⟩
              rcases List.mem_cons.mp member with rfl | inFront
              · exact ⟨result, first⟩
              · exact passed other inFront

/-- What is settled leaves the log as it is. -/
theorem settled_apply (step : Except EvalError α) (log : Log) :
    settled step log =
      match step with
      | .ok value => .ok value log
      | .error failure => .error failure log := by
  cases step with
  | ok value => rfl
  | error failure => rfl

/-- A settled success has its value, and it recorded nothing. -/
theorem settled_apply_eq_ok {step : Except EvalError α} {value : α} {before after : Log}
    (succeeds : settled step before = .ok value after) : step = .ok value ∧ after = before := by
  cases step with
  | ok other =>
      cases succeeds
      exact ⟨rfl, rfl⟩
  | error failure => cases succeeds

end Settled

/-- The frame with variables set one after another. -/
def Frame.setAll (frame : Frame) (values : List (String × Value)) : Frame :=
  { frame with vars := Entries.storeAll values frame.vars }

@[simp] theorem Frame.this_set (frame : Frame) (name : String) (value : Value) :
    (frame.set name value).this = frame.this := rfl

/-- A variable has the value that it was set to last. -/
@[simp] theorem lookup_set_self (frame : Frame) (name : String) (value : Value) :
    lookup (frame.set name value) name = pure value := by
  simp only [lookup, Frame.set, Entries.find?_insert_self]

/-- Setting one variable leaves the others alone. -/
theorem lookup_set_of_ne {name other : String} (differ : other ≠ name) (frame : Frame)
    (value : Value) : lookup (frame.set name value) other = lookup frame other := by
  simp only [lookup, Frame.set, Entries.find?_insert_of_ne differ]

/-- Setting many variables leaves those alone that are not among them. -/
theorem lookup_setAll_of_notMem {name : String} {values : List (String × Value)}
    (absent : name ∉ values.map Prod.fst) (frame : Frame) :
    lookup (frame.setAll values) name = lookup frame name := by
  simp only [lookup, Frame.setAll, Entries.find?_storeAll,
    Entries.last?_eq_none_iff.mpr absent, Option.none_or]

/-- Of variables set one after another, the last value of a name is the one that is read. -/
theorem lookup_setAll_of_last? {name : String} {value : Value} {values : List (String × Value)}
    (last : Entries.last? name values = some value) (frame : Frame) :
    lookup (frame.setAll values) name = pure value := by
  simp only [lookup, Frame.setAll, Entries.find?_storeAll, last, Option.some_or]

/-- The receiver is the object that the method was called on. -/
@[simp] theorem receiver_of_this {frame : Frame} {this : Value} (given : frame.this = some this) :
    receiver frame = pure this := by
  simp only [receiver, given]

/-- Runs a method body in a frame. The result is the value that it ends with, null if it runs to
its end, and the receiver afterwards. -/
def runBody (around : Surroundings) (frame : Frame) (body : List Stmt) :
    Eval (Value × Option Value) := do
  let (frame, result) ← execAll around frame body
  pure (result.getD .null, frame.this)

section Bodies

variable (around : Surroundings) (frame : Frame) (rest : List Stmt)

/-- A body without a result gives null. -/
theorem runBody_nil : runBody around frame [] = pure (.null, frame.this) := by
  simp only [runBody, execAll, pure_bind, Option.getD_none]

/-- A declaration sets its variable for the rest of the body. -/
theorem runBody_declare (name : String) (mutable : Bool) (type : Option Ty) (value : Expr) :
    runBody around frame (.declare name mutable type value :: rest) = (do
      let value ← evalExpr around frame value
      runBody around (frame.set name value) rest) := by
  simp only [runBody, execAll_declare, bind_assoc]

/-- Text is added to the end of a variable for the rest of the body. -/
theorem runBody_append (name text : String) :
    runBody around frame (.append name text :: rest) = (do
      let value ← extended text (← lookup frame name)
      runBody around (frame.set name value) rest) := by
  simp only [runBody, execAll, exec, bind_assoc, pure_bind]

/-- An item is added to the end of a list for the rest of the body. -/
theorem runBody_push (list : String) (value : Expr) :
    runBody around frame (.push list value :: rest) = (do
      let value ← evalExpr around frame value
      let items ← withItem value (← lookup frame list)
      runBody around (frame.set list items) rest) := by
  simp only [runBody, execAll, exec, bind_assoc, pure_bind]

/-- Assigning a property of an object in a variable changes the object there. -/
theorem runBody_assign_var (holder name : String) (value : Expr) :
    runBody around frame (.assign (.field (.var holder) name) value :: rest) = (do
      let value ← evalExpr around frame value
      let changed ← withField name value (← lookup frame holder)
      runBody around (frame.set holder changed) rest) := by
  simp only [runBody, execAll, exec, assignTo, bind_assoc, pure_bind]

/-- Assigning a property of the receiver changes the receiver. -/
theorem runBody_assign_this (name : String) (value : Expr) :
    runBody around frame (.assign (.field .this name) value :: rest) = (do
      let value ← evalExpr around frame value
      let changed ← withField name value (← receiver frame)
      runBody around { frame with this := some changed } rest) := by
  simp only [runBody, execAll, exec, assignTo, bind_assoc, pure_bind]

/-- A conditional body runs before the rest where the condition holds. -/
theorem runBody_when (condition : Expr) (body : List Stmt) :
    runBody around frame (.when condition body :: rest) = (do
      let condition ← evalExpr around frame condition
      if condition.holds then runBody around frame (body ++ rest)
      else runBody around frame rest) := by
  simp only [runBody, execAll, exec, execAll_append, bind_assoc]
  refine bind_congr fun condition => ?_
  split
  · rfl
  · simp only [pure_bind]

/-- A result ends the body; what stands behind it is not run. -/
theorem runBody_result (value : Expr) :
    runBody around frame (.result value :: rest) = (do
      let value ← evalExpr around frame value
      pure (value, frame.this)) := by
  simp only [runBody, execAll, exec, bind_assoc, pure_bind, Option.getD_some]

end Bodies

section Arguments

variable (around : Surroundings) (method : String)

/-- Parameters are bound from the left, and the later ones get the arguments that are left. -/
theorem bindParams_append (front back : List Parameter) (args : List Value) (frame : Frame) :
    bindParams around method (front ++ back) args frame = (do
      let frame ← bindParams around method front args frame
      bindParams around method back (args.drop front.length) frame) := by
  induction front generalizing args frame with
  | nil => simp only [List.nil_append, bindParams, pure_bind, List.length_nil, List.drop_zero]
  | cons param front ih =>
    cases args with
    | cons arg args =>
      simp only [List.cons_append, bindParams, List.length_cons, List.drop_succ_cons]
      exact ih args (frame.set param.name arg)
    | nil =>
      simp only [List.cons_append, bindParams, List.drop_nil]
      cases param.default with
      | none => rfl
      | some value =>
        simp only [bind_assoc]
        refine bind_congr fun value => ?_
        rw [ih, List.drop_nil]

/-- With enough arguments each parameter has its own, and no default is used. -/
theorem bindParams_of_length {params : List Parameter} {args : List Value}
    (enough : params.length ≤ args.length) (frame : Frame) :
    bindParams around method params args frame =
      pure (frame.setAll ((params.map (·.name)).zip args)) := by
  induction params generalizing args frame with
  | nil => rfl
  | cons param params ih =>
    cases args with
    | nil => exact absurd enough (by simp)
    | cons arg args =>
      have fewer : params.length ≤ args.length := Nat.le_of_succ_le_succ enough
      rw [bindParams, ih fewer]
      rfl

/-- Without an argument for every parameter that needs one, the first parameter without one is
missing. -/
theorem bindParams_of_missing {params : List Parameter} {args : List Value}
    (required : ∀ param ∈ params, param.default = none) (missing : args.length < params.length)
    (frame : Frame) :
    bindParams around method params args frame =
      throw (.missingArgument method params[args.length].name) := by
  induction params generalizing args frame with
  | nil => exact absurd missing (Nat.not_lt_zero _)
  | cons param params ih =>
    cases args with
    | nil =>
      rw [bindParams, required param List.mem_cons_self]
      rfl
    | cons arg args =>
      exact ih (fun later member => required later (List.mem_cons_of_mem _ member))
        (Nat.lt_of_succ_lt_succ missing) (frame.set param.name arg)

end Arguments

/-- A method that needs no receiver, or has one, binds its parameters and runs its body. -/
theorem invoke_eq {around : Surroundings} {method : Method} {this : Option Value}
    (received : method.kind = .static ∨ this.isSome) (args : List Value) :
    invoke around method this args = (do
      let frame ← bindParams around method.name method.params args { this }
      runBody around frame method.body) := by
  have called : ¬(method.kind ≠ .static ∧ this.isNone = true) := by
    rintro ⟨ofObject, absent⟩
    rcases received with static | present
    · exact ofObject static
    · cases this with
      | none => cases present
      | some value => cases absent
  rw [invoke, if_neg called]
  rfl

namespace Scene

variable (scene : Scene) (depth : Nat)

@[simp] theorem className_surroundings :
    (scene.surroundings depth).className = scene.recordClass.name := by
  cases depth <;> rfl

@[simp] theorem rows_surroundings : (scene.surroundings depth).rows = scene.rows := by
  cases depth <;> rfl

@[simp] theorem affected_surroundings : (scene.surroundings depth).affected = scene.affected := by
  cases depth <;> rfl

/-- A call inside of a method is a call at one level less. -/
theorem callStatic_surroundings (name : String) (args : List Value) :
    (scene.surroundings (depth + 1)).callStatic name args =
      scene.callStaticIn (scene.surroundings depth) name args := rfl

/-- An object that is created inside of a method is created at one level less. -/
theorem instantiate_surroundings (args : List Value) :
    (scene.surroundings (depth + 1)).instantiate args =
      scene.instantiateIn (scene.surroundings depth) args := rfl

end Scene

end DataAccess.Evaluation
