import DataAccess.Numeral.Binary64

/-!
# Signs of rounded integers

Rounding an integer to a floating-point number keeps its sign: a positive integer never becomes
zero, however large it is. So comparing a rounded integer with zero compares the integer itself
(`above_zero_ofInt`).
-/

namespace DataAccess.Numeral.Binary64

theorem nearestBits_le (num den : Nat) : nearestBits num den ≤ infinityBits := by
  unfold nearestBits
  split
  · exact Nat.zero_le _
  · exact Nat.min_le_right _ _

/-- Scaled up, a positive integer has a quotient of its own. -/
theorem scaledDivision_pos {num : Nat} (positive : 0 < num) {place : Int} (up : place ≤ 0) :
    0 < (scaledDivision num 1 place).1 := by
  have flat : place.toNat = 0 := Int.toNat_eq_zero.mpr up
  simp only [scaledDivision, flat, Nat.one_mul]
  exact Nat.div_pos
    (Nat.le_trans Nat.one_le_two_pow (Nat.le_mul_of_pos_left _ positive)) (Nat.two_pow_pos 0)

/-- A positive integer is not rounded to zero. -/
theorem nearestBits_pos {num : Nat} (positive : 0 < num) : 0 < nearestBits num 1 := by
  have nonzero : num ≠ 0 := Nat.ne_of_gt positive
  have low : -1074 ≤ lastPlace num 1 := Int.le_max_right _ _
  simp only [nearestBits, if_neg nonzero]
  refine Nat.lt_min.mpr ⟨?_, by decide⟩
  by_cases up : lastPlace num 1 ≤ 0
  · have quotient := scaledDivision_pos positive up
    split <;> omega
  · have higher : 0 < (lastPlace num 1 + 1074).toNat := by omega
    exact Nat.add_pos_left (Nat.mul_pos higher (Nat.two_pow_pos 52)) _

theorem toNat_ofMagnitudeBits {bits : Nat} (small : bits ≤ infinityBits) (negative : Bool) :
    (ofMagnitudeBits negative bits).bits.toNat = if negative then twoTo 63 + bits else bits := by
  have bound : bits < twoTo 63 := Nat.lt_of_le_of_lt small (by decide)
  have wide : twoTo 63 + twoTo 63 = 2 ^ 64 := by decide
  simp only [ofMagnitudeBits]
  rw [UInt64.toNat_ofNat_of_lt']
  change _ < 2 ^ 64
  split <;> omega

theorem magnitudeBits_ofMagnitudeBits {bits : Nat} (small : bits ≤ infinityBits)
    (negative : Bool) : (ofMagnitudeBits negative bits).magnitudeBits = bits := by
  have bound : bits < twoTo 63 := Nat.lt_of_le_of_lt small (by decide)
  rw [magnitudeBits, toNat_ofMagnitudeBits small]
  cases negative with
  | false => exact Nat.mod_eq_of_lt bound
  | true =>
      rw [if_pos rfl, Nat.add_mod_left]
      exact Nat.mod_eq_of_lt bound

theorem isNegative_ofMagnitudeBits {bits : Nat} (small : bits ≤ infinityBits) (negative : Bool) :
    (ofMagnitudeBits negative bits).isNegative = negative := by
  have bound : bits < twoTo 63 := Nat.lt_of_le_of_lt small (by decide)
  rw [isNegative, toNat_ofMagnitudeBits small]
  cases negative with
  | false => exact decide_eq_false (Nat.not_le.mpr bound)
  | true => exact decide_eq_true (Nat.le_add_right _ _)

theorem isNaN_ofInt (n : Int) : (ofInt n).isNaN = false := by
  have small := nearestBits_le n.natAbs 1
  rw [isNaN, ofInt, nearest, magnitudeBits_ofMagnitudeBits small]
  exact decide_eq_false (Nat.not_lt.mpr small)

theorem rank_ofInt (n : Int) :
    (ofInt n).rank = if n < 0 then -(nearestBits n.natAbs 1 : Int) else nearestBits n.natAbs 1 := by
  have small := nearestBits_le n.natAbs 1
  simp only [rank, ofInt, nearest, isNegative_ofMagnitudeBits small,
    magnitudeBits_ofMagnitudeBits small, decide_eq_true_eq]

/-- **Comparing with zero.** A rounded integer is above zero exactly when the integer is. -/
theorem above_zero_ofInt (n : Int) : (ofInt n).above (ofInt 0) = decide (0 < n) := by
  have zero : (ofInt 0).rank = 0 := by decide
  rw [above, isNaN_ofInt, isNaN_ofInt, zero, rank_ofInt]
  by_cases negative : n < 0
  · have positive : 0 < nearestBits n.natAbs 1 := nearestBits_pos (by omega)
    simp only [negative, ↓reduceIte, Bool.not_false, Bool.true_and, decide_eq_decide]
    omega
  · by_cases null : n = 0
    · subst null
      decide
    · have positive : 0 < nearestBits n.natAbs 1 := nearestBits_pos (by omega)
      simp only [negative, ↓reduceIte, Bool.not_false, Bool.true_and, decide_eq_decide]
      omega

end DataAccess.Numeral.Binary64
