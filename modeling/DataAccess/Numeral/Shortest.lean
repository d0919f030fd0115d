import DataAccess.Numeral.Binary64

/-!
# The shortest decimal of a binary number

Every finite binary number has an interval of reals that round to it. Its shortest decimal is the
one with the fewest significant digits inside that interval; of several with as few digits, the
nearest to the number, and of two equally near ones the larger.
-/

namespace DataAccess.Numeral

/-- A positive decimal `digits * 10 ^ exponent`. -/
structure Decimal where
  digits : Nat
  exponent : Int
  deriving DecidableEq

/-- The same decimal with as few digits as it can be written with. -/
def Decimal.reduced (d : Decimal) : Decimal :=
  if d.digits ≠ 0 ∧ d.digits % 10 = 0 then reduced ⟨d.digits / 10, d.exponent + 1⟩ else d
termination_by d.digits
decreasing_by exact Nat.div_lt_self (by omega) (by decide)

/-- The reals that round to a number: `low / den` to `high / den` around `value / den`. -/
structure RoundingInterval where
  value : Nat
  low : Nat
  high : Nat
  den : Nat
  /-- Whether the two ends round to the number as well. -/
  closed : Bool

namespace RoundingInterval

/-- The interval of the number `mantissa * 2 ^ exponent`. Below a power of two the neighbours lie
half as far apart as above it, the least normal number apart. -/
def ofBinary (mantissa : Nat) (exponent : Int) : RoundingInterval :=
  let below := if mantissa = twoTo 52 ∧ -1074 < exponent then 1 else 2
  let scale := twoTo exponent.toNat
  { value := 4 * mantissa * scale
    low := (4 * mantissa - below) * scale
    high := (4 * mantissa + 2) * scale
    den := 4 * twoTo (-exponent).toNat
    closed := mantissa % 2 == 0 }

/-- Whether a decimal number is read as the number that the interval is for. -/
def holds (interval : RoundingInterval) (d : Decimal) : Bool :=
  let num := d.digits * tenTo d.exponent.toNat * interval.den
  let scale := tenTo (-d.exponent).toNat
  if interval.closed then interval.low * scale ≤ num && num ≤ interval.high * scale
  else interval.low * scale < num && num < interval.high * scale

/-- The two neighbours of the value on the grid of the multiples of `10 ^ exponent`, and whether
the upper one is as near as the lower one or nearer. -/
def neighbours (interval : RoundingInterval) (exponent : Int) : Decimal × Decimal × Bool :=
  let num := interval.value * tenTo (-exponent).toNat
  let den := interval.den * tenTo exponent.toNat
  (⟨num / den, exponent⟩, ⟨num / den + 1, exponent⟩, den ≤ 2 * (num % den))

/-- The point of the grid that lies in the interval and is nearest to the value. -/
def onGrid? (interval : RoundingInterval) (exponent : Int) : Option Decimal :=
  let (lower, upper, upperNearer) := interval.neighbours exponent
  match interval.holds lower, interval.holds upper with
  | true, true => some (if upperNearer then upper else lower)
  | true, false => some lower
  | false, true => some upper
  | false, false => none

/-- The exponent of the first digit of `num / den`. -/
def firstPlace (num den : Nat) : Int :=
  if den ≤ num then ((Nat.toDigits 10 (num / den)).length : Int) - 1
  else
    let count := (Nat.toDigits 10 (den / num)).length
    if den ≤ num * tenTo (count - 1) then -((count : Int) - 1) else -(count : Int)

/-- The first hit on the grids of `count`, `count + 1`, … significant digits; `attempts` bounds
how many grids are tried. -/
def search (interval : RoundingInterval) (place : Int) : Nat → Nat → Option Decimal
  | 0, _ => none
  | attempts + 1, count =>
    match interval.onGrid? (place + 1 - count) with
    | some d => some d
    | none => search interval place attempts (count + 1)

end RoundingInterval

/-- The shortest decimal of the positive number `mantissa * 2 ^ exponent`. Seventeen digits always
suffice, so the exact mantissa is never the answer. -/
def shortest (mantissa : Nat) (exponent : Int) : Decimal :=
  let interval := RoundingInterval.ofBinary mantissa exponent
  let place := RoundingInterval.firstPlace interval.value interval.den
  ((interval.search place 17 1).getD ⟨mantissa, exponent⟩).reduced

end DataAccess.Numeral
