import DataAccess.Toml.Quoted
import DataAccess.Toml.Tree

/-!
# Reading TOML

A configuration is read line by line: a header, or a key with its value, and a comment. Arrays and
inline tables go on over several lines, with comments between their items. They may be nested up to
a fixed depth, and a key may have as many parts.
-/

namespace DataAccess.Toml

/-- A text without the blanks at the beginning of its line. -/
def dropIndent (text : List Char) : List Char :=
  text.dropWhile isIndent

/-- The text after a comment, where there is one. -/
def afterComment? : List Char → Option (List Char)
  | '#' :: rest =>
    let isLineEnd (c : Char) := c = '\n' || c = '\r'
    if (rest.takeWhile fun c => !isLineEnd c).all isPlainChar then
      some (rest.dropWhile fun c => !isLineEnd c)
    else none
  | rest => some rest

/-- The text after the end of a line, before which only blanks and a comment may stand. -/
def afterLine? (text : List Char) : Option (List Char) := do
  let rest ← afterComment? (dropIndent text)
  if rest.isEmpty then some []
  else if lineBreakLength rest = 0 then none
  else some (dropLineBreak rest)

/-- The text after blanks, comments and line breaks. -/
def afterGap? (text : List Char) : Option (List Char) := do
  let rest ← afterComment? (dropIndent text)
  if lineBreakLength rest = 0 then some rest
  else if (dropLineBreak rest).length < text.length then afterGap? (dropLineBreak rest)
  else none
termination_by text.length

/-- The characters of keys without quotes. -/
def isKeyChar (c : Char) : Bool :=
  c.isAlphanum || c = '-' || c = '_'

/-- One part of a key, with or without quotes. -/
def keyPart? (text : List Char) : Option (String × List Char) :=
  let run := text.takeWhile isKeyChar
  if run.isEmpty then lineString? text
  else some (String.ofList run, text.dropWhile isKeyChar)

/-- The parts of a key, which may be dotted, and the text after the blanks behind it. -/
def keyParts? (text : List Char) : Option (List String × List Char) := do
  let (part, rest) ← keyPart? (dropIndent text)
  match dropIndent rest with
  | '.' :: rest =>
    if rest.length < text.length then do
      let (parts, rest) ← keyParts? rest
      some (part :: parts, rest)
    else none
  | rest => some ([part], rest)
termination_by text.length

/-- How deeply arrays and inline tables may be nested, and how many parts a key may have. -/
def nestingLimit : Nat := 80

/-- A key that is not too long, and the text after the blanks behind it. -/
def key? (text : List Char) : Option (List String × List Char) :=
  (keyParts? text).filter fun (parts, _) => parts.length ≤ nestingLimit

/-- The parts of a key in front of the last one, and the last one. -/
def splitLast? (parts : List String) : Option (List String × String) :=
  parts.getLast?.map fun last => (parts.dropLast, last)

/-- Reads a value at the beginning of a text. -/
abbrev ValueReader := List Char → Option (Toml × List Char)

/-- A key, an equals sign and a value. What may stand around the equals sign is up to the place:
`skip?` gives the text after it. -/
def keyValue? (skip? : List Char → Option (List Char)) (value? : ValueReader)
    (text : List Char) : Option (List String × Toml × List Char) := do
  let (parts, rest) ← key? text
  let rest ← mark? '=' (← skip? rest)
  let (value, rest) ← value? (← skip? rest)
  some (parts, value, rest)

/-- The items of an array after its opening bracket; a comma may stand behind the last one. -/
def arrayItems? (value? : ValueReader) (text : List Char) : Option (List Toml × List Char) := do
  match ← afterGap? text with
  | ']' :: rest => some ([], rest)
  | start => do
    let (item, rest) ← value? start
    match ← afterGap? rest with
    | ',' :: rest =>
      if rest.length < text.length then do
        let (items, rest) ← arrayItems? value? rest
        some (item :: items, rest)
      else none
    | ']' :: rest => some ([item], rest)
    | _ => none
termination_by text.length

/-- The entries of an inline table after its opening brace; a comma may stand behind the last
one. -/
def inlineEntries? (value? : ValueReader) (members : Members) (text : List Char) :
    Option (Members × List Char) := do
  match ← afterGap? text with
  | '\x7d' :: rest => some (members, rest)
  | start => do
    let (parts, value, rest) ← keyValue? afterGap? value? start
    let (path, key) ← splitLast? parts
    let members ← assign path key value .header members
    match ← afterGap? rest with
    | ',' :: rest =>
      if rest.length < text.length then inlineEntries? value? members rest else none
    | '\x7d' :: rest => some (members, rest)
    | _ => none
termination_by text.length

/-- A table on one line, behind its opening brace. -/
def inlineTable? (value? : ValueReader) (text : List Char) : Option (Toml × List Char) :=
  (inlineEntries? value? [] text).map fun (members, rest) =>
    ((Node.table .header members).close, rest)

/-- A value in which arrays and inline tables are nested up to the depth. -/
def value? : Nat → ValueReader
  | depth, '[' :: rest =>
    match depth with
    | 0 => none
    | depth + 1 => (arrayItems? (value? depth) rest).map fun (items, rest) => (.array items, rest)
  | depth, '\x7b' :: rest =>
    match depth with
    | 0 => none
    | depth + 1 => inlineTable? (value? depth) rest
  | _, chars =>
    match string? chars with
    | some (content, rest) => some (.text content, rest)
    | none =>
      let (word, rest) := lexeme chars
      (scalar? word).map fun value => (value, rest)

/-- A configuration under construction, and the path of the table that its lines belong to. -/
structure Progress where
  members : Members := []
  current : List String := []

/-- The key of a header between its brackets, and the text after the closing bracket. -/
def header? (text : List Char) : Option (List String × List Char) := do
  let (parts, rest) ← key? text
  match rest with
  | ']' :: rest => some (parts, rest)
  | _ => none

/-- Opens a table for the lines behind its header. -/
def Progress.open (progress : Progress) (parts : List String) (change : String → Change) :
    Option Progress := do
  let (path, key) ← splitLast? parts
  let members ← changeAt false (change key) path .header progress.members
  some { members, current := parts }

/-- What stands on a line that is not blank, and the text after it. -/
def Progress.entry? (progress : Progress) (text : List Char) : Option (Progress × List Char) :=
  match text with
  | '[' :: '[' :: rest => do
    let (parts, rest) ← header? rest
    let rest ← mark? ']' rest
    some (← progress.open parts openElement, rest)
  | '[' :: rest => do
    let (parts, rest) ← header? rest
    some (← progress.open parts openTable, rest)
  | start => do
    let (parts, value, rest) ← keyValue? (some ∘ dropIndent) (value? nestingLimit) start
    let (path, key) ← splitLast? parts
    let members ← changeAt false (assign path key value) progress.current .header progress.members
    some ({ progress with members }, rest)

/-- Reads the lines of a document. -/
def Progress.lines? (progress : Progress) (text : List Char) : Option Progress := do
  match ← afterGap? text with
  | [] => some progress
  | start => do
    let (progress, rest) ← progress.entry? start
    let rest ← afterLine? rest
    if rest.length < text.length then progress.lines? rest else none
termination_by text.length

/-- The text without a byte order mark at its start. -/
def dropByteOrderMark : List Char → List Char
  | '\uFEFF' :: rest => rest
  | chars => chars

/-- The configuration of a text, if the text is one. -/
def read? (text : String) : Option Toml := do
  let progress ← Progress.lines? {} (dropByteOrderMark text.toList)
  some (Node.table .header progress.members).close

end DataAccess.Toml
