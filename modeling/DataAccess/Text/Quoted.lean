import DataAccess.Numeral.Hexadecimal
import DataAccess.Text.Printable

/-!
# Quoted text

Text between double quotes, for messages: a quote, a backslash and the common control characters
have short escapes, and every other character that does not show by itself is written by its code
point, so that two different texts never look the same.
-/

namespace DataAccess.Text

/-- A character as messages show it. -/
def quotedChar (c : Char) : List Char :=
  if c = '"' then ['\\', '"']
  else if c = '\\' then ['\\', '\\']
  else if c = '\n' then ['\\', 'n']
  else if c = '\r' then ['\\', 'r']
  else if c = '\t' then ['\\', 't']
  else if c = '\x00' then ['\\', '0']
  else if isPrintable c then [c]
  else ['\\', 'u', '\x7b'] ++ Numeral.hexDigits 1 c.toNat ++ ['\x7d']

/-- A text between quotes as messages show it. -/
def quoted (text : String) : String :=
  String.ofList ('"' :: (text.toList.flatMap quotedChar ++ ['"']))

end DataAccess.Text
