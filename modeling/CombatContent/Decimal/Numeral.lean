/-!
# Numerals read

A numeral is an optional sign, digits with at most one point among them, and an optional exponent.
It is read as a whole significand and a power of ten, and rounded once, to the nearest double.
-/

namespace CombatContent.Decimal

/-- The value of a list of decimal digits. -/
def digitsValue (digits : List Char) : Nat :=
  digits.foldl (fun n c => 10 * n + (c.toNat - '0'.toNat)) 0

/-- A numeral taken apart: the significand times ten to the exponent. -/
structure Numeral where
  negative : Bool
  significand : Nat
  exponent : Int
  deriving DecidableEq, Repr

/-- The infinite double. -/
def infinity : Float := 1.0 / 0.0

/-- The double nearest to a numeral. Numerals far outside the range of doubles are infinite or
zero, whatever their digits. -/
def Numeral.toFloat (n : Numeral) : Float :=
  let magnitude := (Nat.toDigits 10 n.significand).length + n.exponent
  let size :=
    if n.significand = 0 || magnitude < -330 then 0.0
    else if 310 < magnitude then infinity
    else Float.ofScientific n.significand (n.exponent < 0) n.exponent.natAbs
  if n.negative then -size else size

/-- Takes an optional sign off the front; `true` stands for minus. -/
def splitSign : List Char → Bool × List Char
  | '-' :: cs => (true, cs)
  | '+' :: cs => (false, cs)
  | cs => (false, cs)

/-- The value of an exponent with its sign, if the text is one. -/
def exponent? (cs : List Char) : Option Int :=
  let (negative, digits) := splitSign cs
  if digits.isEmpty || !digits.all Char.isDigit then none
  else some (if negative then -(digitsValue digits : Int) else digitsValue digits)

/-- The text as an unsigned numeral with the given sign: digits before or after the point, or
both. -/
def unsigned? (negative : Bool) (cs : List Char) : Option Numeral := do
  let (whole, cs) := cs.span Char.isDigit
  let (places, cs) := match cs with
    | '.' :: cs => cs.span Char.isDigit
    | cs => ([], cs)
  if whole.isEmpty && places.isEmpty then none
  let exponent ← match cs with
    | [] => some 0
    | 'e' :: cs => exponent? cs
    | 'E' :: cs => exponent? cs
    | _ => none
  some ⟨negative, digitsValue (whole ++ places), exponent - places.length⟩

/-- The double that a text names: a numeral, or a word for an infinite number or for none. -/
def float? (cs : List Char) : Option Float :=
  let (negative, size) := splitSign cs
  match String.ofList (size.map Char.toLower) with
  | "inf" | "infinity" => some (if negative then -infinity else infinity)
  | "nan" => some (infinity - infinity)
  | _ => (unsigned? negative size).map Numeral.toFloat

end CombatContent.Decimal
