import DataAccess.Numeral.Power

/-!
# Integers in decimal

Reading a decimal integer: one optional sign, then ASCII digits and nothing else.
-/

namespace DataAccess.Numeral

/-- The value of a decimal digit. -/
def digitValue (c : Char) : Nat :=
  c.toNat - '0'.toNat

/-- The number that decimal digits spell. -/
def digitsValue (digits : List Char) : Nat :=
  digits.foldl (fun value c => value * 10 + digitValue c) 0

/-- The value of a text of one or more decimal digits. -/
def natural? (text : List Char) : Option Nat :=
  if text.isEmpty then none
  else if text.all Char.isDigit then some (digitsValue text)
  else none

/-- The value of a decimal integer with at most one sign in front. -/
def integer? : List Char → Option Int
  | '+' :: digits => (natural? digits).map Int.ofNat
  | '-' :: digits => (natural? digits).map fun n => -Int.ofNat n
  | digits => (natural? digits).map Int.ofNat

/-- The value as a 64-bit signed integer, if it is one. -/
def toInt64? (value : Int) : Option Int64 :=
  if -twoTo 63 ≤ value ∧ value < twoTo 63 then some (Int64.ofInt value) else none

/-- The value of a decimal integer that fits 64 bits. -/
def int64? (text : List Char) : Option Int64 :=
  (integer? text).bind toInt64?

/-- A 64-bit integer in decimal, with a minus sign where it is negative. -/
def int64Text (value : Int64) : String :=
  toString value.toInt

theorem toInt64?_toInt (value : Int64) : toInt64? value.toInt = some value := by
  have low : -(twoTo 63 : Int) ≤ value.toInt := value.le_toInt
  have high : value.toInt < (twoTo 63 : Int) := value.toInt_lt
  rw [toInt64?, if_pos ⟨low, high⟩, Int64.ofInt_toInt]

end DataAccess.Numeral
