import DataAccess.Naming.Words
import DataAccess.Text.Basic
import DataAccess.Text.Uppercase

/-!
# Case styles

The styles in which generated identifiers can be written, their configured names, conversion to a
style, and recognition of the style of an identifier.
-/

namespace DataAccess.Naming

/-- How the words of an identifier are written. -/
inductive CaseStyle where
  /-- `lower_snake` -/
  | lowerSnake
  /-- `SCREAMING_SNAKE` -/
  | screamingSnake
  /-- `Capitalized_Snake` -/
  | capitalizedSnake
  /-- `lowerCamel` -/
  | lowerCamel
  /-- `UpperCamel` -/
  | upperCamel
  deriving DecidableEq

namespace CaseStyle

/-- All styles, in the order in which an identifier is tried against them. -/
def all : List CaseStyle :=
  [screamingSnake, capitalizedSnake, lowerSnake, upperCamel, lowerCamel]

/-- What settings call a style. -/
def name : CaseStyle → String
  | lowerSnake => "lower-snake"
  | screamingSnake => "upper-snake-screaming"
  | capitalizedSnake => "capitalized-snake"
  | lowerCamel => "lower-camel"
  | upperCamel => "upper-camel"

/-- The style of a configured name: its own name or a customary spelling, with white space around
it ignored. -/
def ofName? (text : String) : Option CaseStyle :=
  let name := Text.trim text
  if ["lower-snake", "snake_case", "snake"].contains name then some lowerSnake
  else if ["upper-snake-screaming", "screaming-snake", "SCREAMING_SNAKE_CASE"].contains name then
    some screamingSnake
  else if ["capitalized-snake", "Camel_Snake_Case"].contains name then some capitalizedSnake
  else if ["lower-camel", "camelCase"].contains name then some lowerCamel
  else if ["upper-camel", "UpperCamelCase", "PascalCase"].contains name then some upperCamel
  else none

/-- The word with its first character in upper case. -/
def capitalize : List Char → List Char
  | [] => []
  | c :: rest => Text.upperChar c ++ rest

/-- The parts with an underscore between neighbours. -/
def joinParts : List (List Char) → List Char
  | [] => []
  | [only] => only
  | first :: next :: rest => first ++ '_' :: joinParts (next :: rest)

/-- The characters of a name in a style. -/
def applyChars : CaseStyle → List Char → List Char
  | lowerSnake, ident => snake Char.toLower ident
  | screamingSnake, ident => snake Char.toUpper ident
  | capitalizedSnake, ident =>
    joinParts ((Text.splitAt '_' (snake Char.toLower ident)).map capitalize)
  | lowerCamel, ident => camel false ident
  | upperCamel, ident => camel true ident

/-- A name in a style. -/
def apply (style : CaseStyle) (ident : String) : String :=
  String.ofList (style.applyChars ident.toList)

/-- Whether the identifier is written in the style already. -/
def fits (style : CaseStyle) (ident : String) : Bool :=
  !ident.isEmpty && style.apply ident == ident

/-- The first style that the identifier is written in. -/
def detect? (ident : String) : Option CaseStyle :=
  all.find? (·.fits ident)

theorem ofName?_name (style : CaseStyle) : ofName? style.name = some style := by
  cases style <;> decide

end CaseStyle

end DataAccess.Naming
