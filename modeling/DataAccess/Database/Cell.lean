import DataAccess.Numeral.Plain
import DataAccess.Text.Blank
import DataAccess.Text.Quoted
import DataAccess.Text.Utf8

/-!
# Cells

The scalar values that are bound into statements and come back in result rows, and the views of
them as text and as an integer.
-/

namespace DataAccess.Database

/-- A bound value, or a cell of a result row. -/
inductive Cell where
  | null
  | bool (value : Bool)
  | int (value : Int64)
  | uint (value : UInt64)
  | float (value : Numeral.Binary64)
  | text (value : String)
  | bytes (value : List UInt8)
  deriving DecidableEq

namespace Cell

/-- Whether a cell is null. -/
def isNull : Cell → Bool
  | null => true
  | _ => false

/-- The cell as text: text itself, or bytes that encode one. -/
def text? : Cell → Option String
  | text value => some value
  | bytes value => Text.Utf8.decode? value
  | _ => none

/-- The cell as an integer: integers in range, truth values, and text that spells one. -/
def int64? : Cell → Option Int64
  | int value => some value
  | uint value => Numeral.toInt64? value.toNat
  | bool value => some (if value then 1 else 0)
  | text value => Numeral.int64? (Text.trimChars value.toList)
  | bytes value =>
    (Text.Utf8.decode? value).bind fun decoded => Numeral.int64? (Text.trimChars decoded.toList)
  | _ => none

/-- What the cell holds, for messages. -/
def kind : Cell → String
  | null => "NULL"
  | bool _ => "a boolean"
  | int _ | uint _ => "an integer"
  | float _ => "a float"
  | text _ => "text"
  | bytes _ => "bytes"

/-- What messages show of a cell. -/
def shown : Cell → String
  | null => "NULL"
  | bool value => toString value
  | int value => Numeral.int64Text value
  | uint value => toString value.toNat
  | float value => value.text
  | text value => Text.quoted value
  | bytes value =>
    match Text.Utf8.decode? value with
    | some decoded => Text.quoted decoded
    | none => "<" ++ toString value.length ++ " bytes>"

end Cell

end DataAccess.Database
