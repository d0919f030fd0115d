import DataAccess.Numeral.Power

/-!
# Binary floating-point numbers

The 64-bit floating-point numbers of IEEE 754, held as their bit patterns, with the comparisons
that the standard defines and correct rounding of quotients of natural numbers. Nothing here goes
through the machine's own arithmetic, so every value can be computed in a proof.
-/

namespace DataAccess.Numeral

/-- A floating-point number, as its bit pattern: sign, eleven bits of exponent, 52 of fraction. -/
structure Binary64 where
  bits : UInt64
  deriving DecidableEq

namespace Binary64

/-- The size of a number without its sign. -/
inductive Magnitude where
  | nan
  | infinite
  /-- The value `mantissa * 2 ^ exponent`. -/
  | finite (mantissa : Nat) (exponent : Int)
  deriving DecidableEq

/-- The bits below the sign, as a number. Larger magnitudes have larger ones. -/
def magnitudeBits (x : Binary64) : Nat :=
  x.bits.toNat % twoTo 63

/-- The magnitude bits of infinity; all larger ones are not a number. -/
def infinityBits : Nat := 2047 * twoTo 52

/-- Whether the sign of a number is set. -/
def isNegative (x : Binary64) : Bool :=
  twoTo 63 ≤ x.bits.toNat

/-- Whether a value is no number. -/
def isNaN (x : Binary64) : Bool :=
  infinityBits < x.magnitudeBits

/-- A number without its sign. -/
def magnitude (x : Binary64) : Magnitude :=
  let fraction : Nat := x.magnitudeBits % twoTo 52
  let field : Nat := x.magnitudeBits / twoTo 52
  if field = 2047 then if fraction = 0 then .infinite else .nan
  else if field = 0 then .finite fraction (-1074)
  else .finite (twoTo 52 + fraction) ((field : Int) - 1075)

/-- The number with the given sign and magnitude bits. -/
def ofMagnitudeBits (negative : Bool) (bits : Nat) : Binary64 :=
  ⟨UInt64.ofNat (if negative then twoTo 63 + bits else bits)⟩

def nan : Binary64 := ofMagnitudeBits false (infinityBits + twoTo 51)

def infinity (negative : Bool) : Binary64 := ofMagnitudeBits negative infinityBits

def zero (negative : Bool) : Binary64 := ofMagnitudeBits negative 0

/-- Where the number stands in the order of numbers; the two zeros stand at one place. -/
def rank (x : Binary64) : Int :=
  if x.isNegative then -(x.magnitudeBits : Int) else x.magnitudeBits

/-- Numeric equality: not a number equals nothing, and the two zeros are equal. -/
def numericEq (x y : Binary64) : Bool :=
  !x.isNaN && !y.isNaN && x.rank == y.rank

/-- Numeric comparison: not a number is above nothing and below nothing. -/
def above (x y : Binary64) : Bool :=
  !x.isNaN && !y.isNaN && decide (y.rank < x.rank)

/-- Division of `num / den` by `2 ^ exponent`, as quotient, remainder and divisor. -/
def scaledDivision (num den : Nat) (exponent : Int) : Nat × Nat × Nat :=
  let scaledNum := num * twoTo (-exponent).toNat
  let scaledDen := den * twoTo exponent.toNat
  (scaledNum / scaledDen, scaledNum % scaledDen, scaledDen)

/-- The exponent of the last place of the result of rounding `num / den`: a quotient of 53 bits,
or the least exponent that the format has. -/
def lastPlace (num den : Nat) : Int :=
  let guess := (num.log2 : Int) - den.log2 - 52
  let exact := if (scaledDivision num den guess).1 < twoTo 52 then guess - 1 else guess
  max exact (-1074)

/-- The magnitude bits of the number nearest to `num / den`; a tie goes to the even neighbour, and
what lies beyond all finite numbers becomes infinite. -/
def nearestBits (num den : Nat) : Nat :=
  if num = 0 then 0
  else
    let place := lastPlace num den
    let (quotient, remainder, divisor) := scaledDivision num den place
    let up := divisor < 2 * remainder ∨ divisor = 2 * remainder ∧ quotient % 2 = 1
    let rounded := if up then quotient + 1 else quotient
    min ((place + 1074).toNat * twoTo 52 + rounded) infinityBits

/-- The number nearest to the quotient with the given sign. -/
def nearest (negative : Bool) (num den : Nat) : Binary64 :=
  ofMagnitudeBits negative (nearestBits num den)

/-- The number that is nearest to an integer. -/
def ofInt (n : Int) : Binary64 :=
  nearest (n < 0) n.natAbs 1

theorem numericEq_comm (x y : Binary64) : x.numericEq y = y.numericEq x := by
  simp only [numericEq, Bool.and_comm (!x.isNaN), Bool.beq_comm (a := x.rank)]

theorem not_above_self (x : Binary64) : x.above x = false := by
  simp [above]

end Binary64

end DataAccess.Numeral
