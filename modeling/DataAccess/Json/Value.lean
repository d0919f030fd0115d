import DataAccess.Text.Basic

/-!
# JSON values

JSON documents as trees, and the reading of records from them. A record may be given as an object
with its fields in any order, or as an array of its fields in their declared order.
-/

namespace DataAccess

/-- A JSON document. -/
inductive Json where
  | null
  | bool (value : Bool)
  /-- A number, as it is written. -/
  | number (lexeme : String)
  /-- A string; `none` where its escapes spell half of a surrogate pair and so no text. -/
  | string (text : Option String)
  | array (items : List Json)
  /-- Keys and values in the order in which they are written. -/
  | object (entries : List (Option String × Json))

namespace Json

/-- The text that a value is. -/
def text? : Json → Option String
  | string text => text
  | _ => none

/-- The truth value that a value is. -/
def bool? : Json → Option Bool
  | bool value => some value
  | _ => none

/-- The items of an array, each decoded. -/
def listOf? {α : Type _} (decode : Json → Option α) : Json → Option (List α)
  | array items => items.mapM decode
  | _ => none

/-- All values under a key. -/
def valuesOf (key : String) (entries : List (Option String × Json)) : List Json :=
  entries.filterMap fun entry => if entry.1 = some key then some entry.2 else none

/-- The item of a list with at most one. -/
def atMostOne? {α : Type _} : List α → Option (Option α)
  | [] => some none
  | [only] => some (some only)
  | _ => none

/-- The values of the named fields of a record, `none` for a field that is not given. An object may
have other fields, but none of these twice. An array may be shorter than the names and not
longer. -/
def fields? (names : List String) : Json → Option (List (Option Json))
  | object entries =>
    if entries.all (·.1.isSome) then names.mapM fun name => atMostOne? (valuesOf name entries)
    else none
  | array items =>
    if items.length ≤ names.length then
      some (items.map some ++ List.replicate (names.length - items.length) none)
    else none
  | _ => none

/-- The value of a field that must be there. -/
def required {α : Type _} (decode : Json → Option α) (field : Option Json) : Option α :=
  field.bind decode

/-- The value of a field, or a default where it is left out. -/
def optional {α : Type _} (default : α) (decode : Json → Option α) : Option Json → Option α
  | none => some default
  | some given => decode given

/-- An object with the keys. -/
def record (entries : List (String × Json)) : Json :=
  object (entries.map fun entry => (some entry.1, entry.2))

/-- A text as a value. -/
def ofText (text : String) : Json :=
  string (some text)

/-- Texts as a value. -/
def ofTexts (texts : List String) : Json :=
  array (texts.map ofText)

end Json

end DataAccess
