import DataAccess.Evaluation.Value

/-!
# Failures of running code

Why running generated code fails, with the messages.
-/

namespace DataAccess.Evaluation

/-- What kind of value an operation expects. -/
inductive Expectation where
  | integer
  | float
  | number
  | text
  | timestampText
  | dateTime
  | list
  | row
  | object
  | sqlText
  | parameterList
  deriving DecidableEq

/-- How a message names what was expected. -/
def Expectation.phrase : Expectation → String
  | integer => "integer"
  | float => "float"
  | number => "number"
  | text => "text"
  | timestampText => "timestamp text"
  | dateTime => "datetime"
  | list => "list"
  | row => "row"
  | object => "object"
  | sqlText => "sql text"
  | parameterList => "parameter list"

/-- Why running code fails. -/
inductive EvalError where
  | unknownMethod (className method : String)
  | undefinedVariable (name : String)
  | missingArgument (method param : String)
  /-- An object is needed and there is none. -/
  | noReceiver
  | typeMismatch (expected : Expectation) (found : String)
  | invalidTimestamp (text : String)
  | unsupportedCall (call : String)
  /-- More calls are open than the evaluator allows. -/
  | callsTooDeep
  deriving DecidableEq

namespace EvalError

def ticked (name : String) : String :=
  "\x60" ++ name ++ "\x60"

/-- What a failure says. -/
def message : EvalError → String
  | unknownMethod className method => "class " ++ className ++ " has no method " ++ ticked method
  | undefinedVariable name => "undefined variable " ++ ticked name
  | missingArgument method param => "missing argument " ++ ticked param ++ " for " ++ ticked method
  | noReceiver => "\x60this\x60 used outside an instance method"
  | typeMismatch expected found => "expected " ++ expected.phrase ++ ", found " ++ found
  | invalidTimestamp text => "invalid timestamp " ++ ticked text
  | unsupportedCall call => "unsupported call " ++ ticked call
  | callsTooDeep => "calls nested too deeply"

/-- The failure of an operation on a value of the wrong kind. -/
def mismatch (expected : Expectation) (found : Value) : EvalError :=
  typeMismatch expected found.shown

end EvalError

end DataAccess.Evaluation
