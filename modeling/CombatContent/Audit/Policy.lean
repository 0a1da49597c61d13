import CombatContent.Decimal.Shortest

/-!
# Audit policy

The bounds that the rules compare with, and how findings list names.
-/

namespace CombatContent.Audit

/-- The greatest plausible sum of shielding coefficients. -/
def maxShieldingSum : Float := 1.5

/-- How far the sum of thickness ratios may be from one. -/
def thicknessTolerance : Float := 0.05

/-- A ratio below this with a zero threshold takes something off every hit. -/
def ratioFloor : Float := 1.0

/-- How many names a finding lists. -/
def maxListedNames : Nat := 5

/-- What sums of decimal numbers may be off by. -/
def roundingSlack : Float := 1e-9

/-- Whether a number is above a bound by more than rounding. -/
def exceeds (value bound : Float) : Bool := value > bound + roundingSlack

/-- Names in a row; beyond the first few only their count is given. -/
def listNames (names : List String) : String :=
  let shown := ", ".intercalate (names.take maxListedNames)
  if maxListedNames < names.length then
    shown ++ " (+" ++ toString (names.length - maxListedNames) ++ " more)"
  else shown

end CombatContent.Audit
