/-!
# Text operations

Joining, splitting and searching text, and comparison that ignores the case of ASCII letters.
Functions that look at single characters work on `List Char`; the ones used from elsewhere take
and give `String`.
-/

namespace DataAccess.Text

/-- The texts one after another, with `separator` between neighbours. -/
def joinWith (separator : String) : List String → String
  | [] => ""
  | [only] => only
  | first :: next :: rest => first ++ separator ++ joinWith separator (next :: rest)

/-- The parts of a text between the occurrences of `separator`; a text without one is its only
part. -/
def splitAt (separator : Char) : List Char → List (List Char)
  | [] => [[]]
  | c :: rest =>
    if c = separator then [] :: splitAt separator rest
    else
      match splitAt separator rest with
      | [] => [[c]]
      | part :: parts => (c :: part) :: parts

/-- Whether `needle` stands somewhere in the text. -/
def occursIn (needle : List Char) : List Char → Bool
  | [] => needle.isEmpty
  | c :: rest => needle.isPrefixOf (c :: rest) || occursIn needle rest

/-- A text with the first 26 letters small. -/
def lowerAscii (text : String) : String :=
  String.ofList (text.toList.map Char.toLower)

/-- A text with the first 26 letters capital. -/
def upperAscii (text : String) : String :=
  String.ofList (text.toList.map Char.toUpper)

/-- Whether texts differ in the case of the first 26 letters only. -/
def eqIgnoringCase (left right : String) : Bool :=
  left.toList.map Char.toLower == right.toList.map Char.toLower

/-- `count` copies of a text, one after another. -/
def repeated (text : String) : Nat → String
  | 0 => ""
  | count + 1 => text ++ repeated text count

/-- Whether one text comes before another, or is the same. -/
def isUpTo : List Char → List Char → Bool
  | [], _ => true
  | _ :: _, [] => false
  | c :: left, d :: right => c.toNat < d.toNat || (c == d && isUpTo left right)

/-- The order of texts by their UTF-8 bytes, which is the order by code points. -/
def byBytes (left right : String) : Bool :=
  isUpTo left.toList right.toList

theorem eqIgnoringCase_refl (text : String) : eqIgnoringCase text text = true := by
  simp [eqIgnoringCase]

theorem eqIgnoringCase_comm (left right : String) :
    eqIgnoringCase left right = eqIgnoringCase right left := by
  exact Bool.beq_comm

end DataAccess.Text
