import DataAccess.Text.Alphanumeric
import DataAccess.Text.Blank
import DataAccess.Text.LetterCase

/-!
# Words of an identifier

Conversion of an identifier to words joined by underscores and to words run together. Everything
that is neither a letter nor a digit separates words, and separators at the end are dropped first.
Only ASCII letters change their case.
-/

namespace DataAccess.Naming

open Text

/-- Whether a character separates words. -/
def isSeparator (c : Char) : Bool :=
  !isAlphanumeric c

/-- A text without the separators at its end. -/
def dropLastSeparators (text : List Char) : List Char :=
  dropLastWhile isSeparator text

/-- Whether the text has a lower-case character at the position. -/
def lowerAt (text : List Char) (position : Nat) : Bool :=
  match text[position]? with
  | some c => isLowerCase c
  | none => false

/-- Whether a word starts at a character inside a word: it has no ASCII lower-case form of its own,
and a character beside it is lower case. The neighbours are looked up in the whole text at the
position that the UTF-8 offset names, which is the character's own on ASCII text. -/
def startsWord (whole : List Char) (offset : Nat) (c : Char) : Bool :=
  c.toUpper == c && (lowerAt whole (offset + 1) || lowerAt whole (offset - 1))

/-- The words of the text in the given case with underscores between them. `fresh` tells that no
character of the current word has been written. -/
def snakeFrom (recase : Char → Char) (whole : List Char) : Nat → Bool → List Char → List Char
  | _, _, [] => []
  | offset, fresh, c :: rest =>
    let next := offset + c.utf8Size
    if isSeparator c then
      if fresh then snakeFrom recase whole next true rest
      else '_' :: snakeFrom recase whole next true rest
    else if !fresh && startsWord whole offset c then
      '_' :: recase c :: snakeFrom recase whole next false rest
    else recase c :: snakeFrom recase whole next false rest

/-- The words of the text in the given case with underscores between them. -/
def snake (recase : Char → Char) (text : List Char) : List Char :=
  snakeFrom recase text 0 true (dropLastSeparators text)

/-- Where the conversion to words run together stands. -/
structure CamelState where
  /-- Whether the next letter is to be a capital. -/
  capital : Bool
  /-- Whether a character has been written. -/
  started : Bool := false
  /-- The last letter that was written without being a capital of a new word. -/
  last : Char := ' '

/-- Whether a letter is written as a capital: at the start of a word, or where upper case follows
lower case. -/
def CamelState.capitalizes (state : CamelState) (c : Char) : Bool :=
  state.capital || (isLowerCase state.last && isUpperCase c)

/-- The words of the text run together, each after the first with a capital at its start. -/
def camelFrom : CamelState → List Char → List Char
  | _, [] => []
  | state, c :: rest =>
    if isSeparator c then
      camelFrom (if state.started then { state with capital := true } else state) rest
    else if isNumeric c then
      c :: camelFrom { state with capital := true, started := true } rest
    else if state.capitalizes c then
      c.toUpper :: camelFrom { state with capital := false, started := true } rest
    else c.toLower :: camelFrom { state with started := true, last := c } rest

/-- The words of the text run together; `capital` tells whether the first starts with one. -/
def camel (capital : Bool) (text : List Char) : List Char :=
  camelFrom { capital } (dropLastSeparators text)

end DataAccess.Naming
