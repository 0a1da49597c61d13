import CombatContent.Json.Value

/-!
# JSON values passed over

A value that nobody asked for is passed over with what is open around the place reached kept on a
stack, so that its depth does not matter. Its strings and numbers are held to their form only: no
number is too large, and any four hexadecimal digits name a unit.
-/

namespace CombatContent.Json

/-- Passes over the letter of an exponent, which is next, its sign and its digits. -/
def passExponent : Reader Unit := do
  Scan.advance
  let sign ← Scan.peek?
  if sign = some '+' ∨ sign = some '-' then Scan.advance
  unless (← Scan.peek?).any Char.isDigit do failNext .badNumber
  let _ ← digits

/-- Passes over an exponent, if there is one. -/
def passOptionalExponent : Reader Unit := do
  let letter ← Scan.peek?
  if letter = some 'e' ∨ letter = some 'E' then passExponent

/-- Passes over a number from its first digit on. -/
def passNumber : Reader Unit := do
  let first ← Scan.peek?
  if !first.any Char.isDigit then failNext .badNumber
  Scan.advance
  if first = some '0' then
    if (← Scan.peek?).any Char.isDigit then failNext .badNumber
  else
    let _ ← digits
  if ← Scan.accept "." then
    if (← digits).isEmpty then failNext .badNumber
  passOptionalExponent

/-- What is open around a place. -/
inductive Open where
  | list
  | map
  deriving DecidableEq, Repr

/-- The mark that closes what is open. -/
def Open.mark : Open → Char
  | .list => ']'
  | .map => '\x7d'

/-- What is wrong when the text ends inside. -/
def Open.endCause : Open → Cause
  | .list => .endOfList
  | .map => .endOfMap

/-- What is wrong when something follows an item that neither parts nor closes. -/
def Open.goesOnCause : Open → Cause
  | .list => .listGoesOn
  | .map => .mapGoesOn

/-- Passes over a scalar, or over an opening mark; its first character is given and next. -/
def passOpening (c : Char) : Reader (Option Open) := do
  if c = '[' then
    Scan.advance
    return some .list
  else if c = '\x7b' then
    Scan.advance
    return some .map
  else if c = '"' then
    Scan.advance
    passText
    return none
  else if c = '-' then
    Scan.advance
    passNumber
    return none
  else if c.isDigit then
    passNumber
    return none
  else
    let _ ← scalar c
    return none

/-- What is open, the innermost first, and whether an item has just ended. -/
structure Around where
  opened : List Open
  afterItem : Bool

/-- Passes over one closing mark, or over the comma before the next item; the flag says whether
more marks may close. -/
def closeStep (around : Around) : Reader (Around × Bool) := do
  match around.opened with
  | [] => return (around, false)
  | inner :: outer =>
    skipBlanks
    match ← Scan.peek? with
    | none => failNext inner.endCause
    | some c =>
      if c = inner.mark then
        Scan.advance
        return (⟨outer, true⟩, true)
      else if !around.afterItem then return (around, false)
      else if c = ',' then
        Scan.advance
        return (around, false)
      else failNext inner.goesOnCause

/-- Passes over the key of a member and its colon. -/
def passKey : Reader Unit := do
  skipBlanks
  match ← Scan.peek? with
  | none => failNext .endOfMap
  | some c => if c = '"' then Scan.advance else failNext .keyNotString
  passText
  colon

/-- Passes over a scalar or an opening mark, and over what closes and comes before the next item. -/
def passStep (opened : List Open) : Reader (List Open × Bool) := do
  skipBlanks
  match ← Scan.peek? with
  | none => failNext .endOfValue
  | some c =>
    let start : Around := match ← passOpening c with
      | some inner => ⟨inner :: opened, false⟩
      | none => ⟨opened, true⟩
    let around ← Scan.repeatWhile closeStep start
    if around.opened.head? = some .map then passKey
    return (around.opened, !around.opened.isEmpty)

/-- Passes over a value. -/
def passValue : Reader Unit := do
  let _ ← Scan.repeatWhile passStep []

end CombatContent.Json
