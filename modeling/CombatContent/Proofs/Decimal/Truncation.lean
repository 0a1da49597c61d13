import CombatContent.Decimal.Whole
import Mathlib.Algebra.Order.Floor.Ring
import Mathlib.Data.Rat.Floor

/-!
# Truncation

A finite double stands for a rational number. To truncate it is to take the next whole number on
the side of zero, the floor of what is not negative and the ceiling of what is. The result has to
fit into sixty-four bits with a sign, so it is saturated at the least and at the greatest such
number. The infinite doubles go to these two, and what is no number goes to zero. Whole parts are
found without rational numbers, by shifting the significand.

## Main definitions

* `Binary.value`: the rational number that a finite double stands for.
* `towardZero`, `saturated`, `truncated`: truncation.

## Main results

* `Binary.floor_size`: what shifting leaves of the significand.
* `wholePart_eq_truncated`: whole parts are truncated numbers.
-/

namespace CombatContent.Decimal

/-- The number that a finite double stands for, without its sign. -/
def Binary.size (b : Binary) : ℚ := b.significand * 2 ^ b.exponent

/-- The number that a finite double stands for. -/
def Binary.value (b : Binary) : ℚ := if b.negative then -b.size else b.size

/-- The next whole number on the side of zero. -/
def towardZero (q : ℚ) : ℤ := if 0 ≤ q then ⌊q⌋ else ⌈q⌉

/-- The nearest number of sixty-four bits with a sign. -/
def saturated (n : ℤ) : ℤ :=
  if n < -2 ^ 63 then -2 ^ 63 else if 2 ^ 63 ≤ n then 2 ^ 63 - 1 else n

/-- What a double is truncated to. -/
def truncated (x : Float) : ℤ :=
  match Reading.ofFloat x with
  | .nan => 0
  | .infinite true => -2 ^ 63
  | .infinite false => 2 ^ 63 - 1
  | .finite b => saturated (towardZero b.value)

namespace Binary

theorem size_nonneg (b : Binary) : 0 ≤ b.size :=
  mul_nonneg (Nat.cast_nonneg _) (zpow_nonneg (by decide) _)

/-- Shifting the significand leaves the whole part of the size. -/
theorem floor_size (b : Binary) : ⌊b.size⌋ = b.whole := by
  rw [size, whole]
  cases b.exponent with
  | ofNat e =>
    rw [Int.ofNat_eq_natCast, zpow_natCast]
    exact_mod_cast Int.floor_natCast (b.significand * 2 ^ e)
  | negSucc e =>
    rw [zpow_negSucc, ← div_eq_mul_inv]
    exact_mod_cast Rat.floor_natCast_div_natCast b.significand (2 ^ (e + 1))

/-- On the side of zero is the whole part of the size, with the sign. -/
theorem towardZero_value (b : Binary) :
    towardZero b.value = if b.negative then -(b.whole : ℤ) else b.whole := by
  rw [towardZero, value]
  split_ifs with hsign hnonneg hnonneg
  · -- A negative double that is not below zero is a zero with a sign.
    have hzero : b.size = 0 := le_antisymm (neg_nonneg.mp hnonneg) b.size_nonneg
    rw [← b.floor_size, hzero, neg_zero, Int.floor_zero, neg_zero]
  · rw [Int.ceil_neg, b.floor_size]
  · exact b.floor_size
  · exact absurd b.size_nonneg hnonneg

end Binary

theorem saturated_eq (n : ℤ) : saturated n = max minInteger (min maxInteger n) := by
  rw [saturated, minInteger, maxInteger]
  split_ifs <;> omega

/-- Whole parts are truncated numbers. -/
theorem wholePart_eq_truncated (x : Float) : wholePart x = truncated x := by
  rw [wholePart, truncated]
  cases Reading.ofFloat x with
  | nan => rfl
  | infinite negative => cases negative <;> rfl
  | finite b => simp only [← b.towardZero_value, saturated_eq]

example : wholePart 2.7 = 2 := by decide

example : wholePart (-0.5) = 0 := by decide

end CombatContent.Decimal
