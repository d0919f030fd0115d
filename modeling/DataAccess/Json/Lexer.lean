import DataAccess.Json.Value
import DataAccess.Numeral.Hexadecimal

/-!
# The tokens of JSON text

A machine that takes one character at a time and gives the tokens that it completes. Words and
numbers end where a character stands that cannot be part of them; that character is then taken by
itself.
-/

namespace DataAccess.Json

/-- A token of JSON text. -/
inductive Token where
  | openBracket
  | closeBracket
  | openBrace
  | closeBrace
  | comma
  | colon
  /-- One of the words `null`, `true` and `false`, or a number or string. -/
  | scalar (value : Json)

/-- The part of a string that has been read. -/
structure StringPart where
  /-- The characters, the last one first. -/
  chars : List Char := []
  /-- The first half of a surrogate pair whose second half has to follow. -/
  high : Option Nat := none
  /-- Whether half of a pair stood alone. -/
  broken : Bool := false

namespace StringPart

/-- A string with one more character. -/
def put (part : StringPart) (c : Char) : StringPart :=
  { chars := c :: part.chars, high := none, broken := part.broken || part.high.isSome }

/-- A string with one more unit of an escape; two of them can make up a character. -/
def putUnit (part : StringPart) (unit : Nat) : StringPart :=
  if 0xDC00 ≤ unit ∧ unit < 0xE000 then
    match part.high with
    | some high =>
      { part with
        chars := Char.ofNat (0x10000 + (high - 0xD800) * 0x400 + (unit - 0xDC00)) :: part.chars
        high := none }
    | none => { part with broken := true }
  else if 0xD800 ≤ unit ∧ unit < 0xDC00 then
    { part with high := some unit, broken := part.broken || part.high.isSome }
  else part.put (Char.ofNat unit)

/-- The text, if the units spell one. -/
def text? (part : StringPart) : Option String :=
  if part.broken || part.high.isSome then none else some (String.ofList part.chars.reverse)

end StringPart

/-- Where the machine stands. -/
inductive LexState where
  | idle
  /-- Inside a word; the last letter comes first. -/
  | word (letters : List Char)
  /-- Inside a number; the last character comes first. -/
  | number (chars : List Char)
  | string (part : StringPart)
  /-- After a backslash. -/
  | escape (part : StringPart)
  /-- Inside the four digits of an escaped unit, with the number still missing. -/
  | unit (part : StringPart) (missing value : Nat)

/-- White space between tokens. -/
def isGap (c : Char) : Bool :=
  c = ' ' || c = '\n' || c = '\t' || c = '\r'

/-- The characters of numbers. -/
def isNumberChar (c : Char) : Bool :=
  c.isDigit || c = '-' || c = '+' || c = '.' || c = 'e' || c = 'E'

/-- The digits of a whole number: no zero in front of others. -/
def isWhole (digits : List Char) : Bool :=
  digits = ['0'] || (!digits.isEmpty && digits.head? != some '0' && digits.all Char.isDigit)

/-- The exponent of a number: nothing, or a letter, an optional sign and digits. -/
def isExponent : List Char → Bool
  | [] => true
  | c :: rest =>
    let digits := match rest with
      | '+' :: digits => digits
      | '-' :: digits => digits
      | digits => digits
    (c = 'e' || c = 'E') && !digits.isEmpty && digits.all Char.isDigit

/-- The fraction and exponent of a number: a point needs a digit after it. -/
def isFraction : List Char → Bool
  | '.' :: rest =>
    !(rest.takeWhile Char.isDigit).isEmpty && isExponent (rest.dropWhile Char.isDigit)
  | rest => isExponent rest

/-- Whether the characters are a number as JSON writes it. -/
def isNumber (lexeme : List Char) : Bool :=
  let unsigned := match lexeme with
    | '-' :: rest => rest
    | rest => rest
  isWhole (unsigned.takeWhile Char.isDigit) && isFraction (unsigned.dropWhile Char.isDigit)

/-- The value that a word stands for. -/
def word? (letters : List Char) : Option Json :=
  if letters = "null".toList then some null
  else if letters = "true".toList then some (bool true)
  else if letters = "false".toList then some (bool false)
  else none

/-- The character that a letter after a backslash stands for. -/
def escaped? (c : Char) : Option Char :=
  match c with
  | '"' => some '"'
  | '\\' => some '\\'
  | '/' => some '/'
  | 'b' => some '\x08'
  | 'f' => some '\x0c'
  | 'n' => some '\n'
  | 'r' => some '\r'
  | 't' => some '\t'
  | _ => none

/-- The token of a character that stands for itself. -/
def punctuation? (c : Char) : Option Token :=
  match c with
  | '[' => some .openBracket
  | ']' => some .closeBracket
  | '\x7b' => some .openBrace
  | '\x7d' => some .closeBrace
  | ',' => some .comma
  | ':' => some .colon
  | _ => none

/-- What a character begins outside of tokens. -/
def LexState.begin (c : Char) : Option (LexState × List Token) :=
  if isGap c then some (.idle, [])
  else if c = '"' then some (.string {}, [])
  else if c.isDigit || c = '-' then some (.number [c], [])
  else if c.isLower then some (.word [c], [])
  else (punctuation? c).map fun token => (.idle, [token])

/-- The tokens that the machine owes where a word or number ends. -/
def LexState.pending? : LexState → Option (List Token)
  | .idle => some []
  | .word letters => (word? letters.reverse).map fun value => [.scalar value]
  | .number chars =>
    if isNumber chars.reverse then some [.scalar (.number (String.ofList chars.reverse))] else none
  | _ => none

/-- The lexer behind one more character, and the tokens that the character ends. -/
def LexState.step (state : LexState) (c : Char) : Option (LexState × List Token) :=
  match state with
  | .idle => begin c
  | .word letters =>
    if c.isLower then some (.word (c :: letters), [])
    else do
      let owed ← state.pending?
      let (next, tokens) ← begin c
      some (next, owed ++ tokens)
  | .number chars =>
    if isNumberChar c then some (.number (c :: chars), [])
    else do
      let owed ← state.pending?
      let (next, tokens) ← begin c
      some (next, owed ++ tokens)
  | .string part =>
    if c = '"' then some (.idle, [.scalar (.string part.text?)])
    else if c = '\\' then some (.escape part, [])
    else if c.toNat < 32 then none
    else some (.string (part.put c), [])
  | .escape part =>
    if c = 'u' then some (.unit part 4 0, [])
    else (escaped? c).map fun plain => (.string (part.put plain), [])
  | .unit part missing value =>
    (Numeral.hexValue? c).map fun digit =>
      let value := value * 16 + digit
      if missing ≤ 1 then (.string (part.putUnit value), [])
      else (.unit part (missing - 1) value, [])

end DataAccess.Json
