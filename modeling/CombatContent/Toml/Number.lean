import CombatContent.Decimal.Numeral
import CombatContent.Toml.Lexis
import CombatContent.Tree

/-!
# Numbers of TOML

Integers of sixty-four bits with a sign, in four bases, and doubles. An underscore may stand between
two digits. A decimal number has no zero in front. A number too great for a double is refused; one
that is too small is infinite, and so null, as what is no number is.
-/

namespace CombatContent.Toml

open Scan (fail expect)

/-- Whether single underscores stand only between other characters. -/
def underscoresPart : List Char → Bool
  | [] => false
  | ['_'] => false
  | [_] => true
  | '_' :: _ => false
  | _ :: '_' :: cs => underscoresPart cs
  | _ :: cs => underscoresPart cs

/-- Reads digits with underscores between them. -/
def digits (isDigit : Char → Bool) : Reader (List Char) := do
  let run ← Scan.takeWhile fun c => isDigit c || c == '_'
  if underscoresPart run then return run.filter (· != '_') else fail

/-- The integer of a sign and a size, if sixty-four bits hold it. -/
def integer (negative : Bool) (size : Nat) : Reader Tree :=
  if negative then
    if size ≤ Nat.pow 2 63 then return .integer (-(size : Int)) else fail
  else
    if size < Nat.pow 2 63 then return .integer size else fail

/-- The bases that a mark announces. -/
def bases : List (String × Nat) := [("0x", 16), ("0o", 8), ("0b", 2)]

/-- Reads an integer of another base, if the mark of one is next. -/
def markedInteger? : Reader (Option Tree) := do
  for (mark, base) in bases do
    if ← Scan.accept mark then
      let run ← digits fun c => (Json.hexDigit? c).any (· < base)
      let size := run.foldl (fun n c => base * n + (Json.hexDigit? c).getD 0) 0
      return some (← integer false size)
  return none

/-- Reads an optional exponent. -/
def exponent : Reader (List Char) := do
  let letter ← Scan.peek?
  if letter = some 'e' ∨ letter = some 'E' then
    Scan.advance
    let sign ← Scan.peek?
    if sign = some '+' ∨ sign = some '-' then
      Scan.advance
      return 'e' :: sign.toList ++ (← digits Char.isDigit)
    else
      return 'e' :: (← digits Char.isDigit)
  else
    return []

/-- Reads an optional point and the places after it. -/
def places : Reader (List Char) := do
  if ← Scan.accept "." then
    return '.' :: (← digits Char.isDigit)
  else
    return []

/-- Reads a decimal number after its sign. -/
def decimal (negative : Bool) : Reader Tree := do
  let whole ← digits Char.isDigit
  if whole.head? = some '0' ∧ whole ≠ ['0'] then fail
  let fraction ← places
  let power ← exponent
  if fraction.isEmpty && power.isEmpty then
    integer negative (Decimal.digitsValue whole)
  else
    match Decimal.float? (whole ++ fraction ++ power) with
    | some size =>
      if size.isFinite then return .float (if negative then -size else size)
      else if negative then return .null
      else fail
    | none => fail

/-- Reads a number. -/
def number : Reader Tree := do
  match ← markedInteger? with
  | some t => return t
  | none =>
    let sign ← Scan.peek?
    if sign = some '+' ∨ sign = some '-' then Scan.advance
    if ← Scan.accept "inf" then return .null
    else if ← Scan.accept "nan" then return .null
    else decimal (sign = some '-')

end CombatContent.Toml
