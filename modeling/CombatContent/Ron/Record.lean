import CombatContent.Ron.Value

/-!
# Records read from RON text

A record is a struct with or without its name. A field is given once at most, fields that are not
given keep the values of the empty record, and fields that are not known are passed over.
-/

namespace CombatContent.Ron

open Scan (fail expect)

variable {ρ : Type}

/-- A field of a record: reading its value gives what to do to the record. -/
structure Field (ρ : Type) where
  name : String
  read : Reader (ρ → ρ)

/-- A record under way, and the fields that were given. -/
structure Given (ρ : Type) where
  record : ρ
  names : List String

/-- Passes over the name of a struct, which has to be the given one if it is there. -/
def optionalName (name : String) : Reader Unit := do
  if (← Scan.peek?).any isOther then
    if (← identifier) != name then fail

/-- Reads a field into the record; a field that is not known is passed over by `other`. -/
def fieldInto (other : Reader Tree) (fields : List (Field ρ)) (g : Given ρ) :
    Reader (Given ρ) := do
  let key ← identifier
  match fields.find? fun f => f.name == key with
  | none =>
    let _ ← memberValue other
    return g
  | some f =>
    if g.names.contains key then fail
    skipBlanks
    expect ":"
    skipBlanks
    let put ← f.read
    return ⟨put g.record, key :: g.names⟩

/-- How values are passed over in a record that lies in as many others as given: each record takes
two steps inwards. -/
def otherField (bareSome : Bool) (level : Nat) : Reader Tree :=
  value ⟨.passOver, bareSome⟩ (maxSteps - 2 * (level + 1))

/-- Reads a struct as a record; a field that is not known is passed over by `other`. -/
def record (name : String) (other : Reader Tree) (fields : List (Field ρ)) (start : ρ) :
    Reader ρ := do
  optionalName name
  skipBlanks
  expect "("
  let (_, g) ← Scan.repeatWhile (fun (state : Bool × Given ρ) => do
    if ← anotherItem ')' state.1 then
      let g ← fieldInto other fields state.2
      return ((← comma, g), true)
    else return (state, false)) (true, ⟨start, []⟩)
  expect ")"
  return g.record

end CombatContent.Ron
