import CombatContent.Decimal.Binary

/-!
# Numerals with a fixed number of places

The exact value is counted in units of the last place, a half going to the even count, and the
count is then written out in digits. The sign stays, also on a zero that came from a negative
number.

## Main statements

* `roundHalfEven_near`: the rounded count is within half a unit of the exact quotient.
* `roundHalfEven_tie`: an exact half goes to the even count.
-/

namespace CombatContent.Decimal

/-- The whole number nearest to `n / d`, the even one of two equally near. -/
def roundHalfEven (n d : Nat) : Nat :=
  let q := n / d
  let r := n % d
  if 2 * r < d then q else if 2 * r = d then q + q % 2 else q + 1

/-- Rounding moves a quotient by half a unit at most. -/
theorem roundHalfEven_near (n d : Nat) (hd : 0 < d) :
    2 * n ≤ 2 * (roundHalfEven n d * d) + d ∧ 2 * (roundHalfEven n d * d) ≤ 2 * n + d := by
  have hn := Nat.div_add_mod n d
  have hr := Nat.mod_lt n hd
  have hq : d * (n / d) = n / d * d := Nat.mul_comm _ _
  unfold roundHalfEven
  simp only
  split
  · omega
  · split
    · rcases Nat.mod_two_eq_zero_or_one (n / d) with h | h
      · rw [h, Nat.add_zero]; omega
      · rw [h, Nat.add_mul, Nat.one_mul]; omega
    · rw [Nat.add_mul, Nat.one_mul]; omega

/-- An exact half goes to the even neighbour. -/
theorem roundHalfEven_tie (n d : Nat) (h : 2 * (n % d) = d) :
    roundHalfEven n d % 2 = 0 := by
  unfold roundHalfEven
  simp only
  rw [if_neg (by omega), if_pos h]
  omega

/-- The digits of `n`, with zeros in front up to a width. -/
def paddedDigits (width n : Nat) : List Char :=
  let digits := Nat.toDigits 10 n
  List.replicate (width - digits.length) '0' ++ digits

/-- A count of units of the last place, written with its point. -/
def pointed (places units : Nat) : List Char :=
  let whole := Nat.toDigits 10 (units / Nat.pow 10 places)
  if places = 0 then whole else whole ++ '.' :: paddedDigits places (units % Nat.pow 10 places)

/-- The size of a number in units of the last of so many places. -/
def Binary.units (places : Nat) (b : Binary) : Nat :=
  match b.exponent with
  | .ofNat e => b.significand * Nat.pow 2 e * Nat.pow 10 places
  | .negSucc e => roundHalfEven (b.significand * Nat.pow 10 places) (Nat.pow 2 (e + 1))

/-- The numeral of a double with exactly so many places. -/
def fixed (places : Nat) (x : Float) : String :=
  (Reading.ofFloat x).text fun b => pointed places (b.units places)

end CombatContent.Decimal
