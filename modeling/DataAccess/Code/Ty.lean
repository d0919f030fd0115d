import DataAccess.Schema.SemanticType

/-!
# Types of generated code

The types that properties, parameters and results of generated classes have.
-/

namespace DataAccess.Code

/-- A type of generated code. -/
inductive Ty where
  | int
  | float
  | bool
  | dateTime
  | text
  /-- The values of a type, and null. -/
  | nullable (inner : Ty)
  | list (item : Ty)
  /-- The objects of a generated class. -/
  | object (className : String)
  /-- A result row of a connection. -/
  | row
  /-- Values under names. -/
  | map
  | connection
  | unknown
  deriving DecidableEq

namespace Ty

/-- The type of the values of a column that cannot be null. -/
def ofSemantic : Schema.SemanticType → Ty
  | .integer => int
  | .float => float
  | .boolean => bool
  | .temporal => dateTime
  | .text => text

/-- The type with null among its values; a type that has it already stays as it is. -/
def orNull : Ty → Ty
  | nullable inner => nullable inner
  | other => nullable other

/-- Whether null is among the values of a type. -/
def isNullable : Ty → Bool
  | nullable _ => true
  | _ => false

/-- Whether a type is another one or has it as a part. -/
def mentions (other : Ty) : Ty → Bool
  | nullable inner => nullable inner == other || mentions other inner
  | list item => list item == other || mentions other item
  | simple => simple == other

theorem orNull_isNullable (type : Ty) : type.orNull.isNullable = true := by
  cases type <;> rfl

theorem orNull_orNull (type : Ty) : type.orNull.orNull = type.orNull := by
  cases type <;> rfl

theorem mentions_self (type : Ty) : mentions type type = true := by
  cases type <;> simp [mentions]

end Ty

end DataAccess.Code
