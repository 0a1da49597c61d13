import CombatContent.Json.Fault
import CombatContent.Tree

/-!
# Numbers in JSON text

Digits are gathered into a significand of sixty-four bits. Digits that no longer fit are dropped:
those before the point count towards the exponent, those after it do not count at all. A number
without point and exponent is an integer if it fits sixty-four bits; every other number is the
significand scaled by a power of ten, in doubles. Minus zero is the negative zero.
-/

namespace CombatContent.Json

/-- Digits gathered into a bounded significand, and the digits that were left out. -/
structure Gathered where
  significand : Nat
  taken : Nat
  dropped : Nat

/-- Gathers digits until the next one would not fit sixty-four bits. -/
def gather (significand : Nat) : List Char → Gathered
  | [] => ⟨significand, 0, 0⟩
  | c :: cs =>
    let next := 10 * significand + (c.toNat - '0'.toNat)
    if next < Nat.pow 2 64 then
      let g := gather next cs
      { g with taken := g.taken + 1 }
    else ⟨significand, 0, (c :: cs).length⟩

/-- A power of ten with an exponent that doubles have. -/
def powerOfTen (exponent : Nat) : Float := Float.ofScientific 1 false exponent

/-- A size scaled by a power of ten in doubles; nothing if the result is infinite. Exponents below
the range of doubles are used up in steps. -/
def scale? (size : Float) (exponent : Int) : Option Float :=
  if exponent.natAbs ≤ 308 then
    if exponent < 0 then some (size / powerOfTen exponent.natAbs)
    else
      let product := size * powerOfTen exponent.natAbs
      if product.isInf then none else some product
  else if size == 0.0 then some size
  else if 0 ≤ exponent then none
  else scale? (size / powerOfTen 308) (exponent + 308)
termination_by exponent.natAbs

/-- A scaled significand with its sign. -/
def scaled (negative : Bool) (significand : Nat) (exponent : Int) : Reader Float := do
  match scale? (Float.ofNat significand) exponent with
  | some size => return if negative then -size else size
  | none => failHere .numberTooLarge

/-- The least and the greatest exponent that are told apart; further ones are pulled in. -/
def clampExponent (exponent : Int) : Int :=
  max (-Int.pow 2 31) (min (Int.pow 2 31 - 1) exponent)

/-- Takes a run of digits. -/
def digits : Reader (List Char) := Scan.takeWhile Char.isDigit

/-- Reads digits of an exponent until the value would not fit thirty-one bits; the flag says
whether it did fit. -/
def exponentDigits (exponent : Nat) : Reader (Nat × Bool) := fun rest => go exponent rest
where
  go (exponent : Nat) : List Char → Except Fault ((Nat × Bool) × List Char)
    | [] => .ok ((exponent, true), [])
    | c :: cs =>
      if c.isDigit then
        let next := 10 * exponent + (c.toNat - '0'.toNat)
        if next < Nat.pow 2 31 then go next cs else .ok ((exponent, false), cs)
      else .ok ((exponent, true), c :: cs)

/-- Reads an exponent, its letter being next, and scales the significand by it. -/
def withExponent (negative : Bool) (significand : Nat) (start : Int) : Reader Float := do
  Scan.advance
  let sign ← Scan.peek?
  if sign = some '+' ∨ sign = some '-' then Scan.advance
  match ← Scan.peek? with
  | none => failHere .endOfValue
  | some c =>
    if !c.isDigit then failNext .badNumber
    let (exponent, fits) ← exponentDigits 0
    if fits then
      let signedExponent : Int := if sign = some '-' then -(exponent : Int) else exponent
      scaled negative significand (clampExponent (start + signedExponent))
    else if significand ≠ 0 ∧ sign ≠ some '-' then
      failHere .numberTooLarge
    else
      let _ ← digits
      return if negative then -0.0 else 0.0

/-- Reads what may follow the digits of a scaled number: nothing, or an exponent. -/
def finish (negative : Bool) (significand : Nat) (exponent : Int) : Reader Float := do
  match ← Scan.peek? with
  | some 'e' => withExponent negative significand exponent
  | some 'E' => withExponent negative significand exponent
  | _ => scaled negative significand exponent

/-- Reads the point that is next and the places after it. -/
def withPlaces (negative : Bool) (significand : Nat) (start : Int) : Reader Float := do
  Scan.advance
  let places ← digits
  if places.isEmpty then
    if ← Scan.atEnd then failHere .endOfValue else failNext .badNumber
  let g := gather significand places
  finish negative g.significand (start - g.taken)

/-- The integer of a significand and a sign; minus zero, and what does not fit, are doubles. -/
def integerOrFloat (negative : Bool) (significand : Nat) : Tree :=
  if !negative then .integer significand
  else if significand = 0 ∨ Nat.pow 2 63 < significand then .float (-(Float.ofNat significand))
  else .integer (-(significand : Int))

/-- Reads a number from its first digit on. -/
def number (negative : Bool) : Reader Tree := do
  match ← Scan.peek? with
  | none => failHere .endOfValue
  | some '0' =>
    Scan.advance
    match ← Scan.peek? with
    | some '.' => return .float (← withPlaces negative 0 0)
    | some 'e' => return .float (← withExponent negative 0 0)
    | some 'E' => return .float (← withExponent negative 0 0)
    | some c => if c.isDigit then failNext .badNumber else return integerOrFloat negative 0
    | none => return integerOrFloat negative 0
  | some c =>
    if !c.isDigit then failNext .badNumber
    let g := gather 0 (← digits)
    match ← Scan.peek? with
    | some '.' => return .float (← withPlaces negative g.significand g.dropped)
    | some 'e' => return .float (← withExponent negative g.significand g.dropped)
    | some 'E' => return .float (← withExponent negative g.significand g.dropped)
    | _ =>
      if g.dropped = 0 then return integerOrFloat negative g.significand
      else return .float (← scaled negative g.significand g.dropped)

end CombatContent.Json
