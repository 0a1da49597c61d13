/-!
# Doubles read exactly

A double is a sign, a whole significand and a power of two, or it is infinite, or it is no number
at all. Every printed form of a number starts from this reading, so the only rounding is the one
that the form itself asks for.
-/

namespace CombatContent.Decimal

/-- A finite double: the significand times two to the exponent. Zero keeps its sign. -/
structure Binary where
  negative : Bool
  significand : Nat
  exponent : Int
  deriving DecidableEq, Repr

/-- What the bits of a double stand for. -/
inductive Reading where
  | nan
  | infinite (negative : Bool)
  | finite (value : Binary)
  deriving DecidableEq, Repr

/-- The exact reading of a double: one sign bit, eleven bits of scale, fifty-two of fraction. -/
def Reading.ofFloat (x : Float) : Reading :=
  let bits : Nat := x.toBits.toNat
  let negative := decide (Nat.pow 2 63 ≤ bits)
  let scale : Nat := bits / Nat.pow 2 52 % Nat.pow 2 11
  let fraction := bits % Nat.pow 2 52
  if scale = Nat.pow 2 11 - 1 then
    if fraction = 0 then .infinite negative else .nan
  else if scale = 0 then
    .finite ⟨negative, fraction, -1074⟩
  else
    .finite ⟨negative, Nat.pow 2 52 + fraction, (scale : Int) - 1075⟩

/-- The characters of a numeral with its sign in front. -/
def signed (negative : Bool) (digits : List Char) : List Char :=
  if negative then '-' :: digits else digits

/-- The text of a double, given what to write for the size of a finite one. -/
def Reading.text (size : Binary → List Char) : Reading → String
  | .nan => "NaN"
  | .infinite negative => String.ofList (signed negative ['i', 'n', 'f'])
  | .finite b => String.ofList (signed b.negative (size b))

end CombatContent.Decimal
