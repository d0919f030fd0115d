import DataAccess.Code.RecordClass
import DataAccess.Evaluation.Eval

/-!
# Running the methods of a class

Static calls, calls on an object and the making of objects, against a connection that serves the
same rows to every query. Calls may be nested up to a fixed depth, which is far beyond what
generated classes need.
-/

namespace DataAccess.Evaluation

open Code

/-- A class, and what the connection answers. -/
structure Scene where
  recordClass : RecordClass
  rows : List Database.Row := []
  affected : Int64 := 0

/-- The values of the parameters: arguments first, defaults for the missing ones. A default is
evaluated without any variables. -/
def bindParams (around : Surroundings) (method : String) :
    List Parameter → List Value → Frame → Eval Frame
  | [], _, frame => pure frame
  | param :: params, arg :: args, frame =>
    bindParams around method params args (frame.set param.name arg)
  | param :: params, [], frame =>
    match param.default with
    | some default => do
      let value ← evalExpr around {} default
      bindParams around method params [] (frame.set param.name value)
    | none => throw (.missingArgument method param.name)

/-- Runs a method. The result is the value that it ends with, null if it runs to its end, and the
receiver afterwards. -/
def invoke (around : Surroundings) (method : Method) (this : Option Value) (args : List Value) :
    Eval (Value × Option Value) :=
  if method.kind ≠ .static ∧ this.isNone then throw .noReceiver
  else do
    let frame ← bindParams around method.name method.params args { this }
    let (frame, result) ← execAll around frame method.body
    pure (result.getD .null, frame.this)

namespace Scene

/-- The method that a call finds. -/
def method (scene : Scene) (name : String) : Eval Method :=
  match scene.recordClass.method? name with
  | some method => pure method
  | none => throw (.unknownMethod scene.recordClass.name name)

/-- A call on the class, from inside of other calls. -/
def callStaticIn (scene : Scene) (around : Surroundings) (name : String) (args : List Value) :
    Eval Value := do
  let method ← scene.method name
  let (result, _) ← invoke around method none args
  pure result

/-- An object of the class before its constructor runs: every property is null. -/
def blankObject (scene : Scene) : Value :=
  .object scene.recordClass.name
    (Entries.ofList (scene.recordClass.properties.map fun property => (property.name, .null)))

/-- Makes an object and runs the constructor, if there is one. -/
def instantiateIn (scene : Scene) (around : Surroundings) (args : List Value) : Eval Value := do
  match scene.recordClass.constructor? with
  | none => pure scene.blankObject
  | some constructor =>
    match ← invoke around constructor (some scene.blankObject) args with
    | (_, some this) => pure this
    | (_, none) => throw .noReceiver

/-- What stands around code that may nest calls up to the depth. -/
def surroundings (scene : Scene) : Nat → Surroundings
  | 0 =>
    { className := scene.recordClass.name
      rows := scene.rows
      affected := scene.affected
      callStatic := fun _ _ => throw .callsTooDeep
      instantiate := fun _ => throw .callsTooDeep }
  | depth + 1 =>
    { className := scene.recordClass.name
      rows := scene.rows
      affected := scene.affected
      callStatic := fun name args => scene.callStaticIn (scene.surroundings depth) name args
      instantiate := fun args => scene.instantiateIn (scene.surroundings depth) args }

/-- How many calls may be open at a time. -/
def callLimit : Nat := 1000

/-- A call on the class. -/
def callStatic (scene : Scene) (name : String) (args : List Value) : Eval Value :=
  scene.callStaticIn (scene.surroundings callLimit) name args

/-- The creation of an object. -/
def instantiate (scene : Scene) (args : List Value) : Eval Value :=
  scene.instantiateIn (scene.surroundings callLimit) args

/-- Calls a method on an object. The result is what the method ends with and the object
afterwards. -/
def callOnObject (scene : Scene) (this : Value) (name : String) (args : List Value) :
    Eval (Value × Value) := do
  let method ← scene.method name
  let (result, after) ← invoke (scene.surroundings callLimit) method (some this) args
  pure (result, after.getD this)

end Scene

end DataAccess.Evaluation
