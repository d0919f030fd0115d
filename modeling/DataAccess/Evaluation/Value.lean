import DataAccess.Calendar.Written
import DataAccess.Database.Connection
import DataAccess.Entries

/-!
# Values of running code

What the expressions of generated code evaluate to: scalars, moments in time, lists, named values,
objects of a generated class, and the connection.
-/

namespace DataAccess.Evaluation

open Numeral

/-- A value of running code. -/
inductive Value where
  | null
  | bool (value : Bool)
  | int (value : Int64)
  | float (value : Binary64)
  | text (value : String)
  | dateTime (value : Calendar.Timestamp)
  | list (items : List Value)
  | map (entries : List (String × Value))
  | object (className : String) (fields : List (String × Value))
  | connection

namespace Value

/-- Whether a value is null. -/
def isNull : Value → Bool
  | null => true
  | _ => false

/-- The items of a list. -/
def items? : Value → Option (List Value)
  | list items => some items
  | _ => none

/-- What an object or a map has under a name. -/
def member? (name : String) : Value → Option Value
  | object _ fields => Entries.find? name fields
  | map entries => Entries.find? name entries
  | _ => none

/-- Whether a value counts as true. -/
def holds : Value → Bool
  | null => false
  | bool value => value
  | int value => value != 0
  | float value => !value.numericEq (.zero false)
  | text value => !value.isEmpty
  | _ => true

/-- The number that a value is. -/
def number? : Value → Option Binary64
  | int value => some (.ofInt value.toInt)
  | float value => some value
  | _ => none

/-- What the value is, for messages. -/
def kind : Value → String
  | null => "null"
  | bool _ => "bool"
  | int _ => "int"
  | float _ => "float"
  | text _ => "text"
  | dateTime _ => "datetime"
  | list _ => "list"
  | map _ => "map"
  | object _ _ => "object"
  | connection => "connection"

/-- What messages show of a value. -/
def shown : Value → String
  | bool value => toString value
  | int value => int64Text value
  | float value => value.text
  | text value => Text.quoted value
  | dateTime value => value.isoText
  | other => other.kind

mutual

/-- Equality of values: numeric on floating-point numbers, and for maps and objects without regard
to the order of their members. -/
def same : Value → Value → Bool
  | null, null => true
  | bool left, bool right => left == right
  | int left, int right => left == right
  | float left, float right => left.numericEq right
  | text left, text right => left == right
  | dateTime left, dateTime right => left = right
  | list left, list right => sameItems left right
  | map left, map right => left.length == right.length && sameMembers left right
  | object leftClass left, object rightClass right =>
    leftClass == rightClass && left.length == right.length && sameMembers left right
  | connection, connection => true
  | _, _ => false

/-- Equality of lists, item by item. -/
def sameItems : List Value → List Value → Bool
  | [], [] => true
  | left :: lefts, right :: rights => same left right && sameItems lefts rights
  | _, _ => false

/-- Whether the named member has an equal one among the others. -/
def sameMember : String × Value → List (String × Value) → Bool
  | (name, left), others =>
    match Entries.find? name others with
    | some right => same left right
    | none => false

/-- Whether every named member has an equal one among the others. -/
def sameMembers : List (String × Value) → List (String × Value) → Bool
  | [], _ => true
  | member :: members, others => sameMember member others && sameMembers members others

end

/-- The value of an unsigned integer; out of range it becomes the nearest floating-point number. -/
def ofUnsigned (value : UInt64) : Value :=
  (toInt64? value.toNat).elim (float (.ofInt value.toNat)) int

/-- The value of a cell. Bytes become text. -/
def ofCell : Database.Cell → Value
  | .null => null
  | .bool value => bool value
  | .int value => int value
  | .uint value => ofUnsigned value
  | .float value => float value
  | .text value => text value
  | .bytes value => text (Text.Utf8.decodeLossy value)

/-- A result row as a map from column labels to values. -/
def ofRow (row : Database.Row) : Value :=
  map (Entries.ofList (row.cells.map fun cell => (cell.1, ofCell cell.2)))

end Value

end DataAccess.Evaluation
