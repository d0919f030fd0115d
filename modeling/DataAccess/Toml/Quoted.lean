import DataAccess.Toml.Scalar

/-!
# Strings of TOML

The four kinds of strings: basic strings with escapes and literal strings without them, each on one
line or over several lines. A line break right after the opening quotes of a string over several
lines does not count.
-/

namespace DataAccess.Toml

/-- Characters that may stand in strings and comments: all but control characters, and tabs. -/
def isPlainChar (c : Char) : Bool :=
  c = '\t' || (32 ≤ c.toNat && c.toNat ≠ 127)

/-- The character that a letter after a backslash stands for. -/
def shortEscape? (c : Char) : Option Char :=
  match c with
  | 'b' => some '\x08'
  | 't' => some '\t'
  | 'n' => some '\n'
  | 'f' => some '\x0c'
  | 'r' => some '\r'
  | 'e' => some '\x1b'
  | '"' => some '"'
  | '\\' => some '\\'
  | _ => none

/-- The character of a number, if it is the code point of one. -/
def charOfNat? (n : Nat) : Option Char :=
  if n.isValidChar then some (Char.ofNat n) else none

/-- How many hexadecimal digits follow the letter of an escape. -/
def escapeWidth? (c : Char) : Option Nat :=
  match c with
  | 'x' => some 2
  | 'u' => some 4
  | 'U' => some 8
  | _ => none

/-- A character by its code point in hexadecimal digits. -/
def codePoint? (width : Nat) (text : List Char) : Option Char :=
  let digits := text.take width
  if digits.length = width ∧ digits.all Numeral.isHexDigit then
    charOfNat? (Numeral.valueInBase 16 digits)
  else none

/-- The characters of a line break at the start of a text. -/
def lineBreakLength : List Char → Nat
  | '\n' :: _ => 1
  | '\r' :: '\n' :: _ => 2
  | _ => 0

/-- A text without the line break at its beginning. -/
def dropLineBreak (text : List Char) : List Char :=
  text.drop (lineBreakLength text)

def isIndent (c : Char) : Bool :=
  c = ' ' || c = '\t'

/-- The text after a backslash at the end of a line: all white space up to the next character is
left out. Nothing, where more than blanks follow the backslash on its line. -/
def afterLineEnd? (text : List Char) : Option (List Char) :=
  let rest := text.dropWhile isIndent
  if lineBreakLength rest = 0 then none else some (skipBlankLines rest)
where
  /-- Leaves out blanks and line breaks. -/
  skipBlankLines : List Char → List Char
    | ' ' :: rest => skipBlankLines rest
    | '\t' :: rest => skipBlankLines rest
    | '\n' :: rest => skipBlankLines rest
    | '\r' :: '\n' :: rest => skipBlankLines rest
    | rest => rest

/-- The character of an escape after its backslash, and the text after it. -/
def escape? : List Char → Option (Char × List Char)
  | [] => none
  | c :: rest =>
    match escapeWidth? c with
    | some width => (codePoint? width rest).map fun plain => (plain, rest.drop width)
    | none => (shortEscape? c).map fun plain => (plain, rest)

/-- The contents of a string on one line up to its closing quote. `fuel` is at least the length of
the text. -/
def lineString (quote : Char) : Nat → List Char → Option (List Char × List Char)
  | 0, _ => none
  | _, [] => none
  | fuel + 1, c :: rest =>
    if c = quote then some ([], rest)
    else if c = '\\' ∧ quote = '"' then do
      let (plain, rest) ← escape? rest
      let (more, after) ← lineString quote fuel rest
      some (plain :: more, after)
    else if isPlainChar c then do
      let (more, after) ← lineString quote fuel rest
      some (c :: more, after)
    else none

/-- The quotes at the end of a string over several lines: three close it, and up to two more in
front of them belong to it. -/
def closingQuotes? (quote : Char) (text : List Char) : Option (List Char × List Char) :=
  let count := (text.takeWhile (· = quote)).length
  if count < 3 then none
  else
    let kept := min (count - 3) 2
    some (List.replicate kept quote, text.drop (kept + 3))

/-- The contents of a string over several lines up to its closing quotes. -/
def blockString (quote : Char) : Nat → List Char → Option (List Char × List Char)
  | 0, _ => none
  | _, [] => none
  | fuel + 1, c :: rest =>
    match closingQuotes? quote (c :: rest) with
    | some closed => some closed
    | none =>
      if c = '\\' ∧ quote = '"' then
        match afterLineEnd? rest with
        | some rest => blockString quote fuel rest
        | none => do
          let (plain, rest) ← escape? rest
          let (more, after) ← blockString quote fuel rest
          some (plain :: more, after)
      else if isPlainChar c || 0 < lineBreakLength (c :: rest) then do
        let (more, after) ← blockString quote fuel rest
        some (c :: more, after)
      else none

/-- A string on one line, from its opening quote on. -/
def lineString? : List Char → Option (String × List Char)
  | c :: rest =>
    if c = '"' ∨ c = '\'' then
      (lineString c (rest.length + 1) rest).map fun (chars, after) => (String.ofList chars, after)
    else none
  | [] => none

/-- Any string, from its opening quote on. -/
def string? : List Char → Option (String × List Char)
  | '"' :: '"' :: '"' :: rest =>
    (blockString '"' (rest.length + 1) (dropLineBreak rest)).map fun (chars, after) =>
      (String.ofList chars, after)
  | '\'' :: '\'' :: '\'' :: rest =>
    (blockString '\'' (rest.length + 1) (dropLineBreak rest)).map fun (chars, after) =>
      (String.ofList chars, after)
  | chars => lineString? chars

end DataAccess.Toml
