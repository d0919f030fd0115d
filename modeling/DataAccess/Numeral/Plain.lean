import DataAccess.Numeral.Shortest
import DataAccess.Numeral.Integer

/-!
# Floating-point numbers as text

Writing: the shortest decimal, always positional and never with an exponent, without a point where
the value is integral. Reading: decimals with an optional point and exponent and the names of the
special values in any case, rounded to the nearest number.
-/

namespace DataAccess.Numeral

/-- A decimal number without an exponent. -/
def Decimal.positional (d : Decimal) : List Char :=
  let digits := Nat.toDigits 10 d.digits
  if 0 ≤ d.exponent then digits ++ List.replicate d.exponent.toNat '0'
  else
    let places := (-d.exponent).toNat
    if digits.length ≤ places then
      '0' :: '.' :: (List.replicate (places - digits.length) '0' ++ digits)
    else digits.take (digits.length - places) ++ '.' :: digits.drop (digits.length - places)

namespace Binary64

/-- The text of a number: the shortest decimal that reads back as it. -/
def text (x : Binary64) : String :=
  let sign := if x.isNegative then ['-'] else []
  match x.magnitude with
  | .nan => "NaN"
  | .infinite => String.ofList (sign ++ "inf".toList)
  | .finite 0 _ => String.ofList (sign ++ ['0'])
  | .finite mantissa exponent =>
    String.ofList (sign ++ (shortest mantissa exponent).positional)

/-- The number nearest to `digits * 10 ^ exponent`. Exponents far out of range are settled without
computing the power. -/
def ofDecimal (negative : Bool) (digits : Nat) (exponent : Int) : Binary64 :=
  let place := ((Nat.toDigits 10 digits).length : Int) + exponent
  if digits = 0 ∨ place < -400 then zero negative
  else if 400 < place then infinity negative
  else nearest negative (digits * tenTo exponent.toNat) (tenTo (-exponent).toNat)

/-- The exponent part of a decimal: nothing, or the letter `e` and an integer. -/
def exponent? : List Char → Option Int
  | [] => some 0
  | c :: rest => if c = 'e' ∨ c = 'E' then integer? rest else none

/-- A decimal without sign: digits with an optional point among or beside them, and an optional
exponent. -/
def unsigned? (negative : Bool) (text : List Char) : Option Binary64 :=
  let whole := text.takeWhile Char.isDigit
  let afterWhole := text.dropWhile Char.isDigit
  let (fraction, rest) :=
    match afterWhole with
    | '.' :: after => (after.takeWhile Char.isDigit, after.dropWhile Char.isDigit)
    | after => ([], after)
  if whole.isEmpty && fraction.isEmpty then none
  else
    (exponent? rest).map fun exponent =>
      ofDecimal negative (digitsValue (whole ++ fraction)) (exponent - fraction.length)

/-- A number without sign, special values included. -/
def magnitude? (negative : Bool) (text : List Char) : Option Binary64 :=
  let folded := text.map Char.toLower
  if folded = "inf".toList ∨ folded = "infinity".toList then some (infinity negative)
  else if folded = "nan".toList then some nan
  else unsigned? negative text

/-- The number that a text spells. -/
def read? : List Char → Option Binary64
  | '+' :: rest => magnitude? false rest
  | '-' :: rest => magnitude? true rest
  | rest => magnitude? false rest

end Binary64

end DataAccess.Numeral
