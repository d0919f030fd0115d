import DataAccess.Code.Ty
import DataAccess.TypeScript.Lexeme

/-!
# Types in TypeScript

The spelling of types. A list of values that can be null puts its items between parentheses, so
that it is not spelled like a list that can be null.
-/

namespace DataAccess.TypeScript

open Code

/-- The lexemes of a type. -/
def typeLexemes : Ty → List Lexeme
  | .int => [.word "number"]
  | .float => [.word "number"]
  | .bool => [.word "boolean"]
  | .dateTime => [.word "Date"]
  | .text => [.word "string"]
  | .nullable inner => typeLexemes inner ++ [.space, .symbol .bar, .space, .word "null"]
  | .list item =>
    (if item.isNullable then parenthesized (typeLexemes item) else typeLexemes item) ++
      [.symbol .openBracket, .symbol .closeBracket]
  | .object className => [.word className]
  | .row => [.word "Row"]
  | .map =>
    [ .word "Record", .symbol .less, .word "string", .symbol .comma, .space, .word "unknown",
      .symbol .greater ]
  | .connection => [.word "Connection"]
  | .unknown => [.word "unknown"]

/-- How a type is spelled. -/
def typeName (type : Ty) : String :=
  textOf (typeLexemes type)

end DataAccess.TypeScript
