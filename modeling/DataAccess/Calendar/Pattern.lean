import DataAccess.Calendar.Timestamp
import DataAccess.Numeral.Integer
import DataAccess.Text.Blank

/-!
# Reading timestamps by a pattern

A pattern is a list of items, each of which reads a part of the text: a number, one fixed
character, any amount of white space, or a fraction of a second. A number may have white space in
front of it.
-/

namespace DataAccess.Calendar

/-- The numbers that a pattern can read. -/
inductive Field where
  | year
  | month
  | day
  | hour
  | minute
  | second
  deriving DecidableEq

/-- One item of a pattern. -/
inductive PatternItem where
  | number (field : Field)
  | literal (c : Char)
  /-- Any amount of white space, none included. -/
  | blanks
  /-- Nothing, or a point and the digits of a fraction of a second. -/
  | fraction
  deriving DecidableEq

/-- A pattern of a moment, item by item. -/
abbrev Pattern := List PatternItem

/-- The numbers read so far; a number that the pattern does not mention is zero. -/
structure Reading where
  year : Int := 0
  month : Nat := 0
  day : Nat := 0
  hour : Nat := 0
  minute : Nat := 0
  second : Nat := 0
  nano : Nat := 0
  deriving DecidableEq

/-- Reads one or more digits, at most `most` where a limit is given. -/
def readDigits (most : Option Nat) (text : List Char) : Option (List Char × List Char) :=
  let run := text.takeWhile Char.isDigit
  let digits := match most with
    | some limit => run.take limit
    | none => run
  if digits.isEmpty then none else some (digits, text.drop digits.length)

/-- Reads a year: four digits at most, or a sign and any number of digits. -/
def readYear : List Char → Option (Int × List Char)
  | '-' :: text =>
    (readDigits none text).map fun (digits, rest) => (-(Numeral.digitsValue digits : Int), rest)
  | '+' :: text =>
    (readDigits none text).map fun (digits, rest) => ((Numeral.digitsValue digits : Int), rest)
  | text =>
    (readDigits (some 4) text).map fun (digits, rest) => ((Numeral.digitsValue digits : Int), rest)

/-- Reads a number of at most two digits. -/
def readPair (text : List Char) : Option (Nat × List Char) :=
  (readDigits (some 2) text).map fun (digits, rest) => (Numeral.digitsValue digits, rest)

/-- The nanoseconds that a fraction of a second denotes: the first nine digits count. -/
def fractionNanos (digits : List Char) : Nat :=
  let counted := digits.take 9
  Numeral.digitsValue counted * Numeral.tenTo (9 - counted.length)

/-- Reads one item and records the number that it stands for. -/
def PatternItem.read (reading : Reading) : PatternItem → List Char → Option (Reading × List Char)
  | .number .year, text =>
    (readYear (Text.dropBlanks text)).map fun (n, rest) => ({ reading with year := n }, rest)
  | .number .month, text =>
    (readPair (Text.dropBlanks text)).map fun (n, rest) => ({ reading with month := n }, rest)
  | .number .day, text =>
    (readPair (Text.dropBlanks text)).map fun (n, rest) => ({ reading with day := n }, rest)
  | .number .hour, text =>
    (readPair (Text.dropBlanks text)).map fun (n, rest) => ({ reading with hour := n }, rest)
  | .number .minute, text =>
    (readPair (Text.dropBlanks text)).map fun (n, rest) => ({ reading with minute := n }, rest)
  | .number .second, text =>
    (readPair (Text.dropBlanks text)).map fun (n, rest) => ({ reading with second := n }, rest)
  | .literal expected, c :: rest => if c = expected then some (reading, rest) else none
  | .literal _, [] => none
  | .blanks, text => some (reading, Text.dropBlanks text)
  | .fraction, '.' :: text =>
    (readDigits none text).map fun (digits, rest) =>
      ({ reading with nano := fractionNanos digits }, rest)
  | .fraction, text => some (reading, text)

/-- Reads the items of a pattern one after another. The text has to be used up. -/
def Pattern.read (reading : Reading) : Pattern → List Char → Option Reading
  | [], [] => some reading
  | [], _ :: _ => none
  | item :: items, text =>
    match item.read reading text with
    | some (reading, rest) => Pattern.read reading items rest
    | none => none

/-- The timestamp of the numbers read, if they name one. -/
def Reading.timestamp? (reading : Reading) : Option Timestamp :=
  match date? reading.year reading.month reading.day,
    TimeOfDay.ofShown? reading.hour reading.minute reading.second reading.nano with
  | some date, some time => some ⟨date, time⟩
  | _, _ => none

/-- A day, as `year-month-day`. -/
def datePattern : Pattern :=
  [.number .year, .literal '-', .number .month, .literal '-', .number .day]

/-- A time, as `hour:minute:second`. -/
def timePattern : Pattern :=
  [.number .hour, .literal ':', .number .minute, .literal ':', .number .second]

/-- The patterns of timestamps, in the order in which they are tried: with a blank or a `T` between
day and time, without and with a fraction, and last a day alone. -/
def timestampPatterns : List Pattern :=
  [ datePattern ++ .blanks :: timePattern,
    datePattern ++ .blanks :: timePattern ++ [.fraction],
    datePattern ++ .literal 'T' :: timePattern,
    datePattern ++ .literal 'T' :: timePattern ++ [.fraction],
    datePattern ]

/-- The moment that a whole text spells by a pattern. -/
def Pattern.timestamp? (pattern : Pattern) (text : List Char) : Option Timestamp :=
  (Pattern.read {} pattern text).bind Reading.timestamp?

/-- The text without one `Z` at its end. -/
def dropZone (text : List Char) : List Char :=
  if text.getLast? = some 'Z' then text.dropLast else text

/-- Reads a timestamp by the first pattern that fits. White space around it and one `Z` at its end
are ignored. -/
def readTimestamp (text : List Char) : Option Timestamp :=
  timestampPatterns.findSome? (·.timestamp? (dropZone (Text.trimChars text)))

/-- Reads a timestamp by the first pattern that fits. -/
def timestamp? (text : String) : Option Timestamp :=
  readTimestamp text.toList

end DataAccess.Calendar
