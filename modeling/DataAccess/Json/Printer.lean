import DataAccess.Json.Value
import DataAccess.Numeral.Hexadecimal

/-!
# Writing JSON

Documents over several lines, two spaces deeper for every level. Empty arrays and objects stay on
their line.
-/

namespace DataAccess.Json

/-- A control character by its code point, in four hexadecimal digits. -/
def unicodeEscape (c : Char) : List Char :=
  '\\' :: 'u' :: Numeral.hexDigits 4 c.toNat

/-- A character as it stands in a string. -/
def escapeChar (c : Char) : List Char :=
  if c = '"' then ['\\', '"']
  else if c = '\\' then ['\\', '\\']
  else if c = '\x08' then ['\\', 'b']
  else if c = '\x0c' then ['\\', 'f']
  else if c = '\n' then ['\\', 'n']
  else if c = '\r' then ['\\', 'r']
  else if c = '\t' then ['\\', 't']
  else if c.toNat < 32 then unicodeEscape c
  else [c]

/-- A string with its quotes. -/
def stringChars (text : String) : List Char :=
  '"' :: (text.toList.flatMap escapeChar ++ ['"'])

/-- A line break with the spaces of a depth. -/
def newLine (depth : Nat) : List Char :=
  '\n' :: List.replicate (2 * depth) ' '

mutual

/-- A document whose first line stands at the depth. -/
def prettyChars (depth : Nat) : Json → List Char
  | null => "null".toList
  | bool true => "true".toList
  | bool false => "false".toList
  | number lexeme => lexeme.toList
  | string text => stringChars (text.getD "")
  | array [] => "[]".toList
  | array (item :: items) =>
    '[' :: (newLine (depth + 1) ++ prettyChars (depth + 1) item ++ prettyItems (depth + 1) items ++
      newLine depth ++ [']'])
  | object [] => ['\x7b', '\x7d']
  | object (entry :: entries) =>
    '\x7b' :: (newLine (depth + 1) ++ prettyEntry (depth + 1) entry ++
      prettyEntries (depth + 1) entries ++ newLine depth ++ ['\x7d'])

/-- The items after the first, each after a comma on a line of its own. -/
def prettyItems (depth : Nat) : List Json → List Char
  | [] => []
  | item :: items => ',' :: (newLine depth ++ prettyChars depth item ++ prettyItems depth items)

/-- An entry of an object on a line. -/
def prettyEntry (depth : Nat) : Option String × Json → List Char
  | (key, value) => stringChars (key.getD "") ++ ':' :: ' ' :: prettyChars depth value

/-- The entries after the first, each after a comma on a line of its own. -/
def prettyEntries (depth : Nat) : List (Option String × Json) → List Char
  | [] => []
  | entry :: entries =>
    ',' :: (newLine depth ++ prettyEntry depth entry ++ prettyEntries depth entries)

end

/-- The text of a document over several lines. -/
def pretty (document : Json) : String :=
  String.ofList (prettyChars 0 document)

end DataAccess.Json
