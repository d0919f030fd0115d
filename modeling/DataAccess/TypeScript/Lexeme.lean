import DataAccess.Numeral.Integer

/-!
# Lexemes of TypeScript

The pieces that types and expressions are printed from: words, numbers, string literals, symbols
and the spaces between them.
-/

namespace DataAccess.TypeScript

/-- One character as it stands in a string literal. -/
def literalChar (c : Char) : List Char :=
  if c = '"' then ['\\', '"']
  else if c = '\\' then ['\\', '\\']
  else if c = '\n' then ['\\', 'n']
  else if c = '\r' then ['\\', 'r']
  else if c = '\t' then ['\\', 't']
  else [c]

/-- A text as a literal, between its quotes. -/
def literalChars (text : List Char) : List Char :=
  '"' :: (text.flatMap literalChar ++ ['"'])

/-- The string literal of a text. -/
def stringLiteral (text : String) : String :=
  String.ofList (literalChars text.toList)

/-- The symbols of printed code. -/
inductive Symbol where
  | dot
  | comma
  | colon
  | question
  | bar
  | less
  | greater
  | openParen
  | closeParen
  | openBracket
  | closeBracket
  | openBrace
  | closeBrace
  | looselyEqual
  | equal
  | arrow
  deriving DecidableEq

/-- How a symbol is written. -/
def Symbol.text : Symbol → String
  | dot => "."
  | comma => ","
  | colon => ":"
  | question => "?"
  | bar => "|"
  | less => "<"
  | greater => ">"
  | openParen => "("
  | closeParen => ")"
  | openBracket => "["
  | closeBracket => "]"
  | openBrace => "\x7b"
  | closeBrace => "\x7d"
  | looselyEqual => "=="
  | equal => "==="
  | arrow => "=>"

/-- A piece of printed code. -/
inductive Lexeme where
  /-- A name or a keyword. -/
  | word (text : String)
  | number (value : Int64)
  /-- A string literal that stands for the text. -/
  | literal (text : String)
  | symbol (mark : Symbol)
  | space
  deriving DecidableEq

/-- How a lexeme is written. -/
def Lexeme.text : Lexeme → String
  | word text => text
  | number value => Numeral.int64Text value
  | literal text => stringLiteral text
  | symbol mark => mark.text
  | space => " "

/-- The text of lexemes, one after another. -/
def textOf : List Lexeme → String
  | [] => ""
  | lexeme :: rest => lexeme.text ++ textOf rest

/-- Groups of lexemes with a comma and a space between neighbours. -/
def commaSeparated : List (List Lexeme) → List Lexeme
  | [] => []
  | [only] => only
  | first :: next :: rest => first ++ .symbol .comma :: .space :: commaSeparated (next :: rest)

/-- Lexemes between parentheses. -/
def parenthesized (lexemes : List Lexeme) : List Lexeme :=
  .symbol .openParen :: (lexemes ++ [.symbol .closeParen])

theorem textOf_append (left right : List Lexeme) :
    textOf (left ++ right) = textOf left ++ textOf right := by
  induction left with
  | nil => simp [textOf]
  | cons lexeme rest ih => simp [textOf, ih, String.append_assoc]

end DataAccess.TypeScript
