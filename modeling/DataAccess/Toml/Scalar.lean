import DataAccess.Calendar.Timestamp
import DataAccess.Numeral.Hexadecimal
import DataAccess.Numeral.Integer
import DataAccess.Numeral.Plain
import DataAccess.Text.Basic
import DataAccess.Toml.Value

/-!
# Scalars of TOML

Numbers, truth values, dates and times, each recognized by its whole lexeme. Digits may have single
underscores between them. A number that cannot be held is refused.
-/

namespace DataAccess.Toml

open Numeral

/-- Whether the characters are digits of the class with single underscores between them. -/
def isDigitRun (isDigit : Char → Bool) : List Char → Bool
  | [] => false
  | [c] => isDigit c
  | c :: '_' :: rest => isDigit c && isDigitRun isDigit rest
  | c :: rest => isDigit c && isDigitRun isDigit rest

/-- Digits without the marks between them. -/
def withoutMarks (text : List Char) : List Char :=
  text.filter (· ≠ '_')

def isOctalDigit (c : Char) : Bool :=
  '0' ≤ c && c ≤ '7'

def isBinaryDigit (c : Char) : Bool :=
  c = '0' || c = '1'

/-- The number that digits spell in a base. -/
def natInBase? (base : Nat) (isDigit : Char → Bool) (text : List Char) : Option Int :=
  if isDigitRun isDigit text then some (valueInBase base (withoutMarks text)) else none

/-- Whether a text begins with a minus, and the text without its sign. -/
def splitSign : List Char → Bool × List Char
  | '+' :: rest => (false, rest)
  | '-' :: rest => (true, rest)
  | rest => (false, rest)

/-- Whether the characters are a whole number: no zero in front of other digits. -/
def isWholeNumber (text : List Char) : Bool :=
  isDigitRun Char.isDigit text && (text.length = 1 || text.head? != some '0')

/-- An integer, whatever its size. -/
def anyInteger? : List Char → Option Int
  | '0' :: 'x' :: digits => natInBase? 16 isHexDigit digits
  | '0' :: 'o' :: digits => natInBase? 8 isOctalDigit digits
  | '0' :: 'b' :: digits => natInBase? 2 isBinaryDigit digits
  | chars =>
    let (negative, digits) := splitSign chars
    if isWholeNumber digits then
      let value : Int := digitsValue (withoutMarks digits)
      some (if negative then -value else value)
    else none

/-- The integer that a text spells, if it is not too large. -/
def integer? (text : List Char) : Option Int :=
  (anyInteger? text).filter fun value => -twoTo 127 ≤ value ∧ value < twoTo 128

/-- Whether the characters are an exponent: a sign if any, and digits. -/
def isExponentPart (text : List Char) : Bool :=
  isDigitRun Char.isDigit (splitSign text).2

/-- Whether the characters are a fraction and an exponent, or one of the two. -/
def isFractionPart : List Char → Bool
  | '.' :: rest =>
    let isPlace (c : Char) := c.isDigit || c = '_'
    isDigitRun Char.isDigit (rest.takeWhile isPlace) &&
      match rest.dropWhile isPlace with
      | [] => true
      | c :: exponent => (c = 'e' || c = 'E') && isExponentPart exponent
  | c :: exponent => (c = 'e' || c = 'E') && isExponentPart exponent
  | [] => false

/-- Whether the characters are the name of a special number. -/
def isSpecialNumber (text : List Char) : Bool :=
  let name := (splitSign text).2
  name = "inf".toList || name = "nan".toList

/-- Whether the characters are a decimal with a fraction or an exponent, of finite size. -/
def isDecimal (text : List Char) : Bool :=
  let unsigned := (splitSign text).2
  let isPlace (c : Char) := c.isDigit || c = '_'
  isWholeNumber (unsigned.takeWhile isPlace) && isFractionPart (unsigned.dropWhile isPlace) &&
    match Binary64.read? (withoutMarks text) with
    | some value => value.magnitude ≠ .infinite
    | none => false

/-- A number of exactly so many digits at the beginning of a text. -/
def digits? (count : Nat) (text : List Char) : Option (Nat × List Char) :=
  let digits := text.take count
  if digits.length = count ∧ digits.all Char.isDigit then
    some (digitsValue digits, text.drop count)
  else none

/-- The text behind a mark. -/
def mark? (expected : Char) : List Char → Option (List Char)
  | c :: rest => if c = expected then some rest else none
  | [] => none

/-- The text behind a date. -/
def dateRest? (text : List Char) : Option (List Char) := do
  let (year, rest) ← digits? 4 text
  let (month, rest) ← digits? 2 (← mark? '-' rest)
  let (day, rest) ← digits? 2 (← mark? '-' rest)
  if 1 ≤ day ∧ day ≤ Calendar.daysIn year month then some rest else none

/-- The fraction of a second, where there is one. -/
def secondFractionRest? : List Char → Option (List Char)
  | '.' :: rest =>
    if (rest.takeWhile Char.isDigit).isEmpty then none else some (rest.dropWhile Char.isDigit)
  | rest => some rest

/-- A second with its fraction, where there is one; second 60 is a leap second. -/
def secondRest? : List Char → Option (List Char)
  | ':' :: rest => do
    let (second, rest) ← digits? 2 rest
    if second ≤ 60 then secondFractionRest? rest else none
  | rest => some rest

/-- A time of day, to the minute or to the second. -/
def timeRest? (text : List Char) : Option (List Char) := do
  let (hour, rest) ← digits? 2 text
  let (minute, rest) ← digits? 2 (← mark? ':' rest)
  if hour < 24 ∧ minute < 60 then secondRest? rest else none

/-- Whether the characters are nothing or an offset from universal time. -/
def isOffset : List Char → Bool
  | [] => true
  | [c] => c = 'Z' || c = 'z'
  | c :: rest =>
    (c = '+' || c = '-') &&
      match digits? 2 rest with
      | some (hours, ':' :: rest) =>
        match digits? 2 rest with
        | some (minutes, []) => hours < 24 && minutes < 60
        | _ => false
      | _ => false

/-- Whether the characters are a time of day alone. -/
def isTimeOfDay (text : List Char) : Bool :=
  timeRest? text = some []

/-- Whether the characters are a day, alone or with a time behind it. -/
def isDay (text : List Char) : Bool :=
  match dateRest? text with
  | some [] => true
  | some (c :: rest) =>
    (c = 'T' || c = 't' || c = ' ') &&
      match timeRest? rest with
      | some offset => isOffset offset
      | none => false
  | none => false

/-- The value that a text spells without quotes. -/
def scalar? (text : List Char) : Option Toml :=
  if text = "true".toList then some (.bool true)
  else if text = "false".toList then some (.bool false)
  else
    match integer? text with
    | some value => some (.integer value)
    | none =>
      if isSpecialNumber text || isDecimal text then some .float
      else if isDay text || isTimeOfDay text then some .dateTime
      else none

/-- The characters that end a value without quotes. -/
def endsLexeme (c : Char) : Bool :=
  [' ', '\t', '\n', '\r', ',', ']', '\x7d', '#', '='].contains c

/-- The lexeme at the start of a text. A blank between a day and a time belongs to it. -/
def lexeme (text : List Char) : List Char × List Char :=
  let run := text.takeWhile fun c => !endsLexeme c
  match text.dropWhile fun c => !endsLexeme c with
  | ' ' :: c :: rest =>
    if dateRest? run = some [] && c.isDigit then
      (run ++ ' ' :: (c :: rest).takeWhile fun c => !endsLexeme c,
        (c :: rest).dropWhile fun c => !endsLexeme c)
    else (run, ' ' :: c :: rest)
  | rest => (run, rest)

end DataAccess.Toml
