import CombatContent.Decimal.Fixed

/-!
# The shortest numeral that reads back

All reals between two neighbouring midpoints read back as one double. The shortest numeral of the
double is a point of the coarsest decimal grid that meets this interval, and of two such points the
nearer one.

Which of two equally near points is taken, and how the digits are set out, is a matter of the
`Layout`: number text never has an exponent, while numbers quoted from a document have one outside a
middle range and always show that they are no integers.
-/

namespace CombatContent.Decimal

/-- Which of two equally near points is taken. -/
inductive Tie where
  | greater
  | even
  deriving DecidableEq, Repr

/-- Whether the point below is taken where the next one is equally near. -/
def Tie.takesLower (tie : Tie) (below : Nat) : Bool :=
  match tie with
  | .greater => false
  | .even => below % 2 = 0

namespace Binary

/-- The lower end of the interval that reads back, in quarters of the last binary place. Below a
power of two the doubles lie twice as close. -/
def lowQuarters (b : Binary) : Nat :=
  if b.significand = Nat.pow 2 52 ∧ -1074 < b.exponent then 4 * b.significand - 1
  else 4 * b.significand - 2

/-- The upper end of the interval that reads back, in quarters of the last binary place. -/
def highQuarters (b : Binary) : Nat := 4 * b.significand + 2

/-- The point of the grid of step `10 ^ k` that stands for the number, if the grid has a point that
reads back. The ends of the interval belong to it when the significand is even. -/
def onGrid? (tie : Tie) (b : Binary) (k : Int) : Option Nat :=
  let up := Nat.pow 2 (b.exponent - 2).toNat * Nat.pow 10 (-k).toNat
  let down := Nat.pow 2 (2 - b.exponent).toNat * Nat.pow 10 k.toNat
  let inside (c : Nat) : Bool :=
    if b.significand % 2 = 0 then
      b.lowQuarters * up ≤ c * down && c * down ≤ b.highQuarters * up
    else
      b.lowQuarters * up < c * down && c * down < b.highQuarters * up
  let value := 4 * b.significand * up
  let below := value / down
  match inside below, inside (below + 1) with
  | true, true =>
    let middle := (2 * below + 1) * down
    let lower := 2 * value < middle || (2 * value = middle && tie.takesLower below)
    some (if lower then below else below + 1)
  | true, false => some below
  | false, true => some (below + 1)
  | false, false => none

/-- A power of ten above the number: `30103 / 100000` is just over the logarithm of two. -/
def topPlace (b : Binary) : Int :=
  ((b.significand.log2 + 1 + b.exponent) * 30103) / 100000 + 2

end Binary

/-- A decimal number: a whole number of units of `10 ^ place`. -/
structure Digits where
  units : Nat
  place : Int
  deriving DecidableEq, Repr

/-- The shortest digits that read back as a number; seventeen always do. -/
def Binary.shortest (tie : Tie) (b : Binary) : Digits :=
  if b.significand = 0 then ⟨0, 0⟩
  else
    ((List.range 21).findSome? fun (i : Nat) =>
      let place := b.topPlace - (i : Int)
      (b.onGrid? tie place).map fun units => ⟨units, place⟩).getD ⟨0, 0⟩

namespace Digits

/-- The power of ten of the leading digit. -/
def leadingPlace (d : Digits) : Int :=
  ((Nat.toDigits 10 d.units).length : Int) - 1 + d.place

/-- The numeral without an exponent; `wholeEnd` closes one without places. -/
def positional (wholeEnd : List Char) (d : Digits) : List Char :=
  match d.place with
  | .ofNat zeros => Nat.toDigits 10 (d.units * Nat.pow 10 zeros) ++ wholeEnd
  | .negSucc n => pointed (n + 1) d.units

/-- The numeral with one digit before the point and a signed exponent. -/
def scientific (d : Digits) : List Char :=
  let mantissa := match Nat.toDigits 10 d.units with
    | [] => []
    | [c] => [c]
    | c :: cs => c :: '.' :: cs
  let place := d.leadingPlace
  mantissa ++ 'e' :: (if place < 0 then '-' else '+') :: Nat.toDigits 10 place.natAbs

end Digits

/-- How shortest digits are set out. -/
structure Layout where
  tie : Tie
  /-- Which places of the leading digit are written without an exponent. -/
  positional : Int → Bool
  /-- What closes a numeral that has no places. -/
  wholeEnd : List Char

/-- Number text: no exponent, and nothing after a whole number. -/
def Layout.plain : Layout := ⟨.greater, fun _ => true, []⟩

/-- A number quoted from a document: an exponent from `1e16` up and below `0.00001`, and a whole
number closed by a point and a zero. -/
def Layout.quoted : Layout := ⟨.even, fun place => -5 ≤ place && place < 16, ['.', '0']⟩

/-- The digits in a layout. -/
def Layout.write (layout : Layout) (d : Digits) : List Char :=
  if layout.positional d.leadingPlace then d.positional layout.wholeEnd else d.scientific

/-- The shortest text of a double in a layout. -/
def Layout.text (layout : Layout) (x : Float) : String :=
  (Reading.ofFloat x).text fun b => layout.write (b.shortest layout.tie)

/-- The shortest text of a double without an exponent. -/
def text (x : Float) : String := Layout.plain.text x

/-- The shortest text of a double as documents write it. -/
def quotedText (x : Float) : String := Layout.quoted.text x

end CombatContent.Decimal
