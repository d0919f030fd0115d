import DataAccess.Code.Ty
import DataAccess.Evaluation.Failure

/-!
# Casts

Reading a cell as a value of a type. Servers send numbers as text and truth values as numbers;
these are converted, and every other value stays as it is.
-/

namespace DataAccess.Evaluation

open Code Numeral

/-- The integer that a text spells between blanks. -/
def castTextToInt (text : String) : Except EvalError Value :=
  match int64? (Text.trimChars text.toList) with
  | some value => .ok (.int value)
  | none => .error (.mismatch .integer (.text text))

/-- The floating-point number that a text spells between blanks. -/
def castTextToFloat (text : String) : Except EvalError Value :=
  match Binary64.read? (Text.trimChars text.toList) with
  | some value => .ok (.float value)
  | none => .error (.mismatch .float (.text text))

/-- A value as a value of a type. -/
def cast : Value → Ty → Except EvalError Value
  | .null, .nullable _ => .ok .null
  | value, .nullable inner => cast value inner
  | .text value, .int => castTextToInt value
  | .bool value, .int => .ok (.int (if value then 1 else 0))
  | .int value, .float => .ok (.float (.ofInt value.toInt))
  | .text value, .float => castTextToFloat value
  | .int value, .bool => .ok (.bool (value != 0))
  | .text value, .bool => .ok (.bool (value != "0" && !value.isEmpty))
  | .int value, .text => .ok (.text (int64Text value))
  | .float value, .text => .ok (.text value.text)
  | value, _ => .ok value

end DataAccess.Evaluation
