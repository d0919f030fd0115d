import DataAccess.Code.Expr
import DataAccess.TypeScript.Binding
import DataAccess.TypeScript.TypeName

/-!
# Expressions in TypeScript

Printing of expressions. An operand that binds looser than its place asks for stands between
parentheses.
-/

namespace DataAccess.TypeScript

open Code

/-- How tightly an expression holds together, the loosest first. -/
inductive Strength where
  | conditional
  | equality
  | unary
  | postfixed
  deriving DecidableEq

/-- The place of a strength, the loosest first. -/
def Strength.rank : Strength → Nat
  | conditional => 1
  | equality => 2
  | unary => 3
  | postfixed => 4

/-- How tightly an expression holds together when it is printed. -/
def strengthOf : Expr → Strength
  | .ternary _ _ _ => .conditional
  | .greater _ _ | .equal _ _ | .isNull _ | .isEmpty _ => .equality
  | .await _ => .unary
  | _ => .postfixed

/-- The lexemes of an expression where the place asks for at least the given strength. -/
def enclosed (least actual : Strength) (lexemes : List Lexeme) : List Lexeme :=
  if actual.rank < least.rank then parenthesized lexemes else lexemes

/-- The key of an object literal: a plain identifier, or else a string literal. -/
def keyLexeme (key : String) : Lexeme :=
  if isPlainKey key then .word key else .literal key

/-- A value read as a value of a type: by a conversion, or by an assertion where the language has
no conversion. -/
def castLexemes (type : Ty) (value : List Lexeme) : List Lexeme :=
  let target := match type with
    | .nullable inner => inner
    | other => other
  match target with
  | .int | .float => .word "Number" :: parenthesized value
  | .bool => .word "Boolean" :: parenthesized value
  | .text => .word "String" :: parenthesized value
  | other =>
    parenthesized (value ++ [.space, .word "as", .space] ++ typeLexemes other)

/-- Two operands with an operator between them. -/
def comparison (operator : Symbol) (left right : List Lexeme) : List Lexeme :=
  left ++ [.space, .symbol operator, .space] ++ right

mutual

/-- The lexemes of an expression in the class of the name. -/
def exprLexemes (className : String) : Expr → List Lexeme
  | .var name => [.word (binding name)]
  | .this => [.word "this"]
  | .field target name =>
    enclosed .postfixed (strengthOf target) (exprLexemes className target) ++
      [.symbol .dot, .word name]
  | .index target key =>
    enclosed .postfixed (strengthOf target) (exprLexemes className target) ++
      [.symbol .openBracket, .literal key, .symbol .closeBracket]
  | .text value => [.literal value]
  | .int value => [.number value]
  | .bool value => [.word (toString value)]
  | .null => [.word "null"]
  | .list items =>
    .symbol .openBracket ::
      (commaSeparated (allLexemes className items) ++ [.symbol .closeBracket])
  | .map [] => [.symbol .openBrace, .symbol .closeBrace]
  | .map (entry :: entries) =>
    [.symbol .openBrace, .space] ++
      commaSeparated (entryLexemes className entry :: entriesLexemes className entries) ++
      [.space, .symbol .closeBrace]
  | .greater left right =>
    comparison .greater (enclosed .unary (strengthOf left) (exprLexemes className left))
      (enclosed .unary (strengthOf right) (exprLexemes className right))
  | .equal left right =>
    comparison .equal (enclosed .unary (strengthOf left) (exprLexemes className left))
      (enclosed .unary (strengthOf right) (exprLexemes className right))
  | .ternary condition whenTrue whenFalse =>
    enclosed .equality (strengthOf condition) (exprLexemes className condition) ++
      [.space, .symbol .question, .space] ++
      enclosed .conditional (strengthOf whenTrue) (exprLexemes className whenTrue) ++
      [.space, .symbol .colon, .space] ++
      enclosed .conditional (strengthOf whenFalse) (exprLexemes className whenFalse)
  | .isNull value =>
    comparison .looselyEqual (enclosed .unary (strengthOf value) (exprLexemes className value))
      [.word "null"]
  | .isEmpty value =>
    comparison .equal
      (enclosed .postfixed (strengthOf value) (exprLexemes className value) ++
        [.symbol .dot, .word "length"])
      [.number 0]
  | .first value =>
    enclosed .postfixed (strengthOf value) (exprLexemes className value) ++
      [.symbol .openBracket, .number 0, .symbol .closeBracket]
  | .cast value type => castLexemes type (exprLexemes className value)
  | .await value =>
    [.word "await", .space] ++ enclosed .unary (strengthOf value) (exprLexemes className value)
  | .call target method args =>
    enclosed .postfixed (strengthOf target) (exprLexemes className target) ++
      [.symbol .dot, .word method] ++ parenthesized (commaSeparated (allLexemes className args))
  | .selfCall method args =>
    [.word className, .symbol .dot, .word method] ++
      parenthesized (commaSeparated (allLexemes className args))
  | .new created args =>
    [.word "new", .space, .word created] ++
      parenthesized (commaSeparated (allLexemes className args))
  | .mapRows source param itemType body =>
    enclosed .postfixed (strengthOf source) (exprLexemes className source) ++
      [.symbol .dot, .word "map"] ++
      parenthesized
        (parenthesized [.word (binding param), .symbol .colon, .space, .word "Row"] ++
          [.symbol .colon, .space] ++ typeLexemes itemType ++ [.space, .symbol .arrow, .space] ++
          exprLexemes className body)
  | .parseTimestamp value => .word "parseTimestamp" :: parenthesized (exprLexemes className value)
  | .formatTimestamp value .sql =>
    .word "formatTimestamp" :: parenthesized (exprLexemes className value)
  | .formatTimestamp value .iso =>
    enclosed .postfixed (strengthOf value) (exprLexemes className value) ++
      [.symbol .dot, .word "toISOString", .symbol .openParen, .symbol .closeParen]

/-- The lexemes of expressions, one group for each. -/
def allLexemes (className : String) : List Expr → List (List Lexeme)
  | [] => []
  | expr :: rest => exprLexemes className expr :: allLexemes className rest

/-- The lexemes of an entry of an object literal. -/
def entryLexemes (className : String) : String × Expr → List Lexeme
  | (key, value) => [keyLexeme key, .symbol .colon, .space] ++ exprLexemes className value

/-- The lexemes of entries, one group for each. -/
def entriesLexemes (className : String) : List (String × Expr) → List (List Lexeme)
  | [] => []
  | entry :: rest => entryLexemes className entry :: entriesLexemes className rest

end

/-- The text of an expression in the class of the name. -/
def exprText (className : String) (expr : Expr) : String :=
  textOf (exprLexemes className expr)

end DataAccess.TypeScript
