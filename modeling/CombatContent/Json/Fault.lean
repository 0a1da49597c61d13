import CombatContent.Text.Position
import CombatContent.Text.Scan
import CombatContent.Typing.Fault

/-!
# Faults in JSON text

A fault has a cause and a place. The place is kept as the count of bytes that were still unread,
so that readers need not know the whole text; the message turns it into a line and a column.
-/

namespace CombatContent.Json

/-- What is wrong with a JSON text. -/
inductive Cause where
  | endOfList
  | endOfMap
  | endOfString
  | endOfValue
  | colonWanted
  | listGoesOn
  | mapGoesOn
  | wordWanted
  | valueWanted
  | badEscape
  | badNumber
  | numberTooLarge
  | controlCharacter
  | keyNotString
  | loneSurrogate
  | halfSurrogatePair
  | trailingComma
  | trailingText
  | tooDeep
  | mistyped (fault : Typing.Fault)

/-- The wording of a cause. -/
def Cause.message : Cause → String
  | .endOfList => "EOF while parsing a list"
  | .endOfMap => "EOF while parsing an object"
  | .endOfString => "EOF while parsing a string"
  | .endOfValue => "EOF while parsing a value"
  | .colonWanted => "expected `:`"
  | .listGoesOn => "expected `,` or `]`"
  | .mapGoesOn => "expected `,` or `\x7d`"
  | .wordWanted => "expected ident"
  | .valueWanted => "expected value"
  | .badEscape => "invalid escape"
  | .badNumber => "invalid number"
  | .numberTooLarge => "number out of range"
  | .controlCharacter => "control character (\\u0000-\\u001F) found while parsing a string"
  | .keyNotString => "key must be a string"
  | .loneSurrogate => "lone leading surrogate in hex escape"
  | .halfSurrogatePair => "unexpected end of hex escape"
  | .trailingComma => "trailing comma"
  | .trailingText => "trailing characters"
  | .tooDeep => "recursion limit exceeded"
  | .mistyped fault => fault.message

/-- A cause, and the bytes that were unread when it was met. -/
structure Fault where
  cause : Cause
  unread : Nat

/-- The wording of a fault in a text. -/
def Fault.message (fault : Fault) (text : List Char) : String :=
  let place := Text.Position.ofUnread text fault.unread
  fault.cause.message ++ " at line " ++ toString place.line ++ " column " ++ toString place.column

/-- A reader of JSON text. -/
abbrev Reader := Scan Fault

variable {α : Type}

/-- Fails at the place reached. -/
def failHere (cause : Cause) : Reader α := do
  throw ⟨cause, Text.byteCount (← get)⟩

/-- Fails one byte on from the place reached, or at the end of the text. -/
def failNext (cause : Cause) : Reader α := do
  throw ⟨cause, Text.byteCount (← get) - 1⟩

/-- Fails at the end of the text. -/
def failAtEnd (cause : Cause) : Reader α :=
  throw ⟨cause, 0⟩

/-- Passes over blanks. -/
def skipBlanks : Reader Unit := do
  let _ ← Scan.takeWhile fun c => c == ' ' || c == '\n' || c == '\t' || c == '\r'

end CombatContent.Json
