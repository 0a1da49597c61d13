/-!
# Readers of text

A reader takes the characters that are left, and answers with a value and the characters left
after it, or it fails. Readers are combined by `do`; a reader that has to repeat is run by
`repeatWhile`, which ends because every further round has used up some of the text.
-/

namespace CombatContent

/-- A reader of text that fails with an `ε`. -/
abbrev Scan (ε : Type) := StateT (List Char) (Except ε)

namespace Scan

variable {ε σ : Type}

/-- The next character, left where it is. -/
def peek? : Scan ε (Option Char) := do
  return (← get).head?

/-- Passes over one character. -/
def advance : Scan ε Unit :=
  modify List.tail

/-- Takes the next character. -/
def next? : Scan ε (Option Char) := do
  let c ← peek?
  advance
  return c

/-- Takes the longest run of characters with a property. -/
def takeWhile (p : Char → Bool) : Scan ε (List Char) := do
  let (run, rest) := (← get).span p
  set rest
  return run

/-- Whether the word is next. -/
def lookingAt (word : String) : Scan ε Bool := do
  return word.toList.isPrefixOf (← get)

/-- Takes the word if it is next. -/
def accept (word : String) : Scan ε Bool := do
  if ← lookingAt word then
    modify (List.drop word.length)
    return true
  else
    return false

/-- Refuses the text without a reason. -/
def fail {α : Type} : Scan Unit α := throw ()

/-- Passes over a word, which has to be next. -/
def expect (word : String) : Scan Unit Unit := do
  unless ← accept word do fail

/-- Whether no text is left. -/
def atEnd : Scan ε Bool := do
  return (← get).isEmpty

/-- Looks at what a reader would answer, and leaves the text where it is. -/
def lookAhead {α : Type} (r : Scan ε α) : Scan ε (Option α) := fun rest =>
  match r rest with
  | .ok (a, _) => .ok (some a, rest)
  | .error _ => .ok (none, rest)

/-- The answer of a reader, or nothing and the text where it was if the reader fails. -/
def optional {α : Type} (r : Scan ε α) : Scan ε (Option α) := fun rest =>
  match r rest with
  | .ok (a, rest') => .ok (some a, rest')
  | .error _ => .ok (none, rest)

/-- Feeds a state through a step for as long as the step asks for more and uses up text. -/
def repeatWhile (step : σ → Scan ε (σ × Bool)) (s : σ) (rest : List Char) :
    Except ε (σ × List Char) :=
  match step s rest with
  | .error e => .error e
  | .ok ((s', more), rest') =>
    if _h : more ∧ rest'.length < rest.length then repeatWhile step s' rest' else .ok (s', rest')
termination_by rest.length

end Scan

end CombatContent
