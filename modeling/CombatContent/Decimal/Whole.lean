import CombatContent.Decimal.Binary

/-!
# Whole parts

A double is made a whole number by leaving its fraction out. What does not fit into sixty-four bits
with a sign becomes the nearest number that does, and what is no number at all becomes zero.
-/

namespace CombatContent.Decimal

/-- The least number of sixty-four bits with a sign. -/
def minInteger : Int := -9223372036854775808

/-- The greatest number of sixty-four bits with a sign. -/
def maxInteger : Int := 9223372036854775807

/-- The size of a finite double without its fraction. -/
def Binary.whole (b : Binary) : Nat :=
  match b.exponent with
  | .ofNat e => b.significand * Nat.pow 2 e
  | .negSucc e => b.significand / Nat.pow 2 (e + 1)

/-- The whole part of a double, as near as sixty-four bits allow. -/
def wholePart (x : Float) : Int :=
  match Reading.ofFloat x with
  | .nan => 0
  | .infinite negative => if negative then minInteger else maxInteger
  | .finite b => max minInteger (min maxInteger (if b.negative then -b.whole else b.whole))

end CombatContent.Decimal
