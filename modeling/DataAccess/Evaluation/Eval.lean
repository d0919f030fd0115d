import DataAccess.Calendar.Pattern
import DataAccess.Code.Expr
import DataAccess.Evaluation.Cast

/-!
# Evaluation of expressions and statements

Expressions are evaluated from left to right in a frame of variables. Requests to the connection
are recorded in a log that keeps what a later failure leaves behind. What a call of another method
of the class does is a parameter here, so that everything in this module is structural recursion.
-/

namespace DataAccess.Evaluation

open Code

/-- The two kinds of requests to a connection. -/
inductive RequestKind where
  | query
  | execute
  deriving DecidableEq

namespace RequestKind

/-- The method of the connection that makes such a request. -/
def method : RequestKind → String
  | query => "query"
  | execute => "execute"

/-- The kind of request that a method of connections sends. -/
def ofMethod? (method : String) : Option RequestKind :=
  if method = "query" then some query
  else if method = "execute" then some execute
  else none

end RequestKind

/-- A recorded request with its bound values. -/
structure Request where
  kind : RequestKind
  sql : String
  params : List Value

/-- The requests recorded, in order. -/
abbrev Log := List Request

/-- Running code: it can fail, and it records requests. -/
abbrev Eval := EStateM EvalError Log

/-- What stands around running code. -/
structure Surroundings where
  className : String
  /-- The rows that answer every query. -/
  rows : List Database.Row
  /-- The number of affected rows that answers every other request. -/
  affected : Int64
  callStatic : String → List Value → Eval Value
  instantiate : List Value → Eval Value

/-- The variables and the receiver of a running method. -/
structure Frame where
  vars : Entries Value := []
  this : Option Value := none

/-- The frame with another value of a variable. -/
def Frame.set (frame : Frame) (name : String) (value : Value) : Frame :=
  { frame with vars := frame.vars.insert name value }

/-- Fails with the failure of a value of the wrong kind. -/
def expecting {α : Type} (expected : Expectation) (found : Value) : Eval α :=
  throw (.mismatch expected found)

/-- A result that is there already, without anything recorded. -/
def settled {α : Type} : Except EvalError α → Eval α
  | .ok value => pure value
  | .error failure => throw failure

/-- The value of a variable. -/
def lookup (frame : Frame) (name : String) : Eval Value :=
  match frame.vars.find? name with
  | some value => pure value
  | none => throw (.undefinedVariable name)

/-- The object that the method is called on. -/
def receiver (frame : Frame) : Eval Value :=
  match frame.this with
  | some value => pure value
  | none => throw .noReceiver

/-- The field of an object or entry of a map; null where it has none of the name. -/
def fieldOf (name : String) : Value → Eval Value
  | .object _ fields => pure ((Entries.find? name fields).getD .null)
  | .map entries => pure ((Entries.find? name entries).getD .null)
  | other => expecting .object other

/-- The cell of a row; null where it has none of the name. -/
def cellOf (key : String) : Value → Eval Value
  | .map entries => pure ((Entries.find? key entries).getD .null)
  | other => expecting .row other

/-- Whether one number is greater than another, as a value. -/
def isGreater (left right : Value) : Eval Value :=
  match left.number?, right.number? with
  | some leftNumber, some rightNumber => pure (.bool (leftNumber.above rightNumber))
  | _, _ => expecting .number left

/-- The items of a list. -/
def itemsOf : Value → Eval (List Value)
  | .list items => pure items
  | other => expecting .list other

/-- Reads a timestamp from text; a timestamp stays as it is. -/
def asTimestamp : Value → Eval Value
  | .text text =>
    match Calendar.timestamp? text with
    | some value => pure (.dateTime value)
    | none => throw (.invalidTimestamp text)
  | .dateTime value => pure (.dateTime value)
  | other => expecting .timestampText other

/-- The text of a moment in a form. -/
def formatted (form : TimestampForm) : Value → Eval Value
  | .dateTime value =>
    match form with
    | .sql => pure (.text value.sqlText)
    | .iso => pure (.text value.isoText)
  | other => expecting .dateTime other

/-- The statement among the arguments of a request. -/
def sqlOf (method : String) : List Value → Eval String
  | .text sql :: _ => pure sql
  | other :: _ => expecting .sqlText other
  | [] => throw (.unsupportedCall (method ++ "()"))

/-- The bound values among the arguments of a request; none where they are left out. -/
def paramsOf : List Value → Eval (List Value)
  | _ :: .list params :: _ => pure params
  | _ :: other :: _ => expecting .parameterList other
  | _ => pure []

/-- Sends a request, which is recorded, and gives the answer of the connection. -/
def request (around : Surroundings) (kind : RequestKind) (args : List Value) : Eval Value := do
  let sql ← sqlOf kind.method args
  let params ← paramsOf args
  modify (· ++ [{ kind, sql, params }])
  match kind with
  | .query => pure (.list (around.rows.map Value.ofRow))
  | .execute => pure (.int around.affected)

/-- Calls a method of a value; only the connection has some. -/
def callOn (around : Surroundings) (target : Value) (method : String) (args : List Value) :
    Eval Value :=
  match target, RequestKind.ofMethod? method with
  | .connection, some kind => request around kind args
  | target, _ => throw (.unsupportedCall (target.kind ++ "." ++ method))

mutual

/-- The value of an expression. Its parts are evaluated from left to right. -/
def evalExpr (around : Surroundings) (frame : Frame) : Expr → Eval Value
  | .var name => lookup frame name
  | .this => receiver frame
  | .field target name => do fieldOf name (← evalExpr around frame target)
  | .index target key => do cellOf key (← evalExpr around frame target)
  | .text value => pure (.text value)
  | .int value => pure (.int value)
  | .bool value => pure (.bool value)
  | .null => pure .null
  | .list items => do pure (.list (← evalAll around frame items))
  | .map entries => do pure (.map (Entries.ofList (← evalEntries around frame entries)))
  | .greater left right => do
    let left ← evalExpr around frame left
    let right ← evalExpr around frame right
    isGreater left right
  | .equal left right => do
    let left ← evalExpr around frame left
    let right ← evalExpr around frame right
    pure (.bool (left.same right))
  | .ternary condition whenTrue whenFalse => do
    let condition ← evalExpr around frame condition
    if condition.holds then evalExpr around frame whenTrue else evalExpr around frame whenFalse
  | .isNull value => do
    let value ← evalExpr around frame value
    pure (.bool value.isNull)
  | .isEmpty value => do
    let items ← itemsOf (← evalExpr around frame value)
    pure (.bool items.isEmpty)
  | .first value => do
    let items ← itemsOf (← evalExpr around frame value)
    pure (items.head?.getD .null)
  | .cast value type => do settled (cast (← evalExpr around frame value) type)
  | .await value => evalExpr around frame value
  | .call target method args => do
    let target ← evalExpr around frame target
    let args ← evalAll around frame args
    callOn around target method args
  | .selfCall method args => do
    let args ← evalAll around frame args
    around.callStatic method args
  | .new className args =>
    if className = around.className then do
      let args ← evalAll around frame args
      around.instantiate args
    else throw (.unsupportedCall ("new " ++ className))
  | .mapRows source param _ body => do
    let items ← itemsOf (← evalExpr around frame source)
    let results ← items.mapM fun item => evalExpr around (frame.set param item) body
    pure (.list results)
  | .parseTimestamp value => do asTimestamp (← evalExpr around frame value)
  | .formatTimestamp value form => do formatted form (← evalExpr around frame value)

/-- The values of expressions, from left to right. -/
def evalAll (around : Surroundings) (frame : Frame) : List Expr → Eval (List Value)
  | [] => pure []
  | expr :: rest => do
    let value ← evalExpr around frame expr
    let values ← evalAll around frame rest
    pure (value :: values)

/-- The value of an entry under its key. -/
def evalEntry (around : Surroundings) (frame : Frame) : String × Expr → Eval (String × Value)
  | (name, expr) => do pure (name, ← evalExpr around frame expr)

/-- The values under names, from left to right. -/
def evalEntries (around : Surroundings) (frame : Frame) :
    List (String × Expr) → Eval (List (String × Value))
  | [] => pure []
  | entry :: rest => do
    let entry ← evalEntry around frame entry
    let entries ← evalEntries around frame rest
    pure (entry :: entries)

end

/-- An object with another value of a field. -/
def withField (name : String) (value : Value) : Value → Eval Value
  | .object className fields => pure (.object className (Entries.insert name value fields))
  | other => expecting .object other

/-- Sets a field of the receiver or of the object in a variable. -/
def assignTo (frame : Frame) (value : Value) : Expr → Eval Frame
  | .field .this name => do
    let changed ← withField name value (← receiver frame)
    pure { frame with this := some changed }
  | .field (.var holder) name => do
    let changed ← withField name value (← lookup frame holder)
    pure (frame.set holder changed)
  | .field _ _ => throw (.unsupportedCall "nested field assignment")
  | _ => throw (.unsupportedCall "assignment to non-field")

/-- A text with more text at its end. -/
def extended (suffix : String) : Value → Eval Value
  | .text text => pure (.text (text ++ suffix))
  | other => expecting .text other

/-- A list with one more item at its end. -/
def withItem (item : Value) : Value → Eval Value
  | .list items => pure (.list (items ++ [item]))
  | other => expecting .list other

mutual

/-- Runs a statement. The result is the frame after it, and the value that the method ends with if
it ends here. -/
def exec (around : Surroundings) (frame : Frame) : Stmt → Eval (Frame × Option Value)
  | .declare name _ _ value => do
    let value ← evalExpr around frame value
    pure (frame.set name value, none)
  | .assign target value => do
    let value ← evalExpr around frame value
    pure (← assignTo frame value target, none)
  | .append name text => do
    let value ← extended text (← lookup frame name)
    pure (frame.set name value, none)
  | .push list value => do
    let value ← evalExpr around frame value
    let items ← withItem value (← lookup frame list)
    pure (frame.set list items, none)
  | .when condition body => do
    let condition ← evalExpr around frame condition
    if condition.holds then execAll around frame body else pure (frame, none)
  | .result value => do
    let value ← evalExpr around frame value
    pure (frame, some value)
  | .run value => do
    let _ ← evalExpr around frame value
    pure (frame, none)

/-- Runs statements one after another, up to the first that ends the method. -/
def execAll (around : Surroundings) (frame : Frame) : List Stmt → Eval (Frame × Option Value)
  | [] => pure (frame, none)
  | statement :: rest => do
    match ← exec around frame statement with
    | (frame, some value) => pure (frame, some value)
    | (frame, none) => execAll around frame rest

end

/-- Code of a method of objects reads the fields of its receiver. -/
theorem evalExpr_field_this {around : Surroundings} {frame : Frame} {this : Value}
    (received : frame.this = some this) (name : String) :
    evalExpr around frame (.field .this name) = fieldOf name this := by
  simp only [evalExpr, receiver, received, pure_bind]

section Statements

variable (around : Surroundings) (frame : Frame)

/-- A declaration sets its variable for the statements behind it. -/
theorem execAll_declare (name : String) (mutable : Bool) (type : Option Ty) (value : Expr)
    (rest : List Stmt) :
    execAll around frame (.declare name mutable type value :: rest) = (do
      let value ← evalExpr around frame value
      execAll around (frame.set name value) rest) := by
  simp only [execAll, exec, bind_assoc, pure_bind]

/-- Statements after each other are executed one by one, up to the first result. -/
theorem execAll_append (first second : List Stmt) :
    execAll around frame (first ++ second) = (do
      match ← execAll around frame first with
      | (frame, some value) => pure (frame, some value)
      | (frame, none) => execAll around frame second) := by
  induction first generalizing frame with
  | nil => simp only [List.nil_append, execAll, pure_bind]
  | cons statement first ih =>
    simp only [List.cons_append, execAll, bind_assoc]
    refine bind_congr fun outcome => ?_
    obtain ⟨frame, _ | value⟩ := outcome
    · exact ih frame
    · simp only [pure_bind]

end Statements

end DataAccess.Evaluation
