import CombatContent.Json.PassOver
import CombatContent.Typing.Shape

/-!
# Records read from JSON text

A record can be read straight from the text, without a tree in between, so that what is wrong with
it has a place. It is written as a map or as a list of its fields; members that name no field are
passed over, a field is given once at most, and fields that are not given keep the values of the
empty record.

## Main definitions

* `Field`, `record`: a field and a record.
* `wholeText`: reads a whole text as one value or record.
-/

namespace CombatContent.Json

variable {α ρ : Type}

/-- Refuses the value that begins here, `c` being its first character, for its kind. A scalar is
passed over first. -/
def refuse (wanted : Typing.Wanted) (c : Char) : Reader α := do
  if c = '[' then failHere (.mistyped (.wrongKind .sequence wanted))
  else if c = '\x7b' then failHere (.mistyped (.wrongKind .map wanted))
  else
    let t ← scalar c
    failHere (.mistyped (.wrongKind (Typing.found t) wanted))

/-- Reads a text. -/
def typedText (wanted : Typing.Wanted) : Reader String := do
  skipBlanks
  match ← Scan.peek? with
  | none => failNext .endOfValue
  | some c =>
    if c = '"' then
      Scan.advance
      text
    else refuse wanted c

/-- A field of a record: reading its value gives what to do to the record. -/
structure Field (ρ : Type) where
  name : String
  read : Reader (ρ → ρ)

/-- A record under way, and the fields that were given. -/
structure Given (ρ : Type) where
  record : ρ
  first : Bool
  names : List String

/-- Refuses a member that was given before. What closes the map is passed over first. -/
def refuseRepeated (name : String) : Reader α := do
  skipBlanks
  let _ ← Scan.accept "\x7d"
  failHere (.mistyped (.repeatedMember name))

/-- Reads the value of a member into the record. -/
def memberInto (fields : List (Field ρ)) (g : Given ρ) (key : String) : Reader (Given ρ) := do
  match fields.find? fun f => f.name == key with
  | none =>
    colon
    passValue
    return ⟨g.record, false, g.names⟩
  | some f =>
    if g.names.contains key then refuseRepeated key
    colon
    let put ← f.read
    return ⟨put g.record, false, key :: g.names⟩

/-- Reads the members of a map and its closing brace. -/
def recordMembers (fields : List (Field ρ)) (start : ρ) : Reader ρ := do
  let g ← Scan.repeatWhile (fun (g : Given ρ) => do
    match ← mapTurn g.first with
    | .close => return (g, false)
    | .key =>
      Scan.advance
      let key ← text
      return (← memberInto fields g key, true)) ⟨start, true, []⟩
  Scan.advance
  return g.record

/-- Reads elements into fields in order until the list ends. -/
def recordElements : Bool → List (Field ρ) → ρ → Reader ρ
  | _, [], r => return r
  | first, f :: fs, r => do
    match ← listTurn first with
    | .close => return r
    | .element =>
      let put ← f.read
      recordElements false fs (put r)

/-- Passes over the closing bracket of a list that has no further elements. -/
def endList : Reader Unit := do
  skipBlanks
  if ← Scan.accept "]" then return
  else if ← Scan.accept "," then
    skipBlanks
    if ← Scan.lookingAt "]" then failNext .trailingComma else failNext .trailingText
  else if ← Scan.atEnd then failNext .endOfList
  else failNext .trailingText

/-- Reads a record in either written form. -/
def record (name : String) (fields : List (Field ρ)) (start : ρ) : Reader ρ := do
  skipBlanks
  match ← Scan.peek? with
  | none => failNext .endOfValue
  | some c =>
    if c = '[' then
      Scan.advance
      let r ← recordElements true fields start
      endList
      return r
    else if c = '\x7b' then
      Scan.advance
      recordMembers fields start
    else refuse (.record name) c

/-- Reads a whole text with a reader of values. -/
def wholeText (wanted : Reader α) (cs : List Char) : Except Fault α :=
  (do
    let a ← wanted
    finishText
    return a : Reader α).run' cs

end CombatContent.Json
