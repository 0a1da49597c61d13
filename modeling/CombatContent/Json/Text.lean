import CombatContent.Json.Fault

/-!
# Strings in JSON text

A string holds runs of plain characters and escapes. Four hexadecimal digits name a unit of
sixteen bits; a character beyond those takes a pair of surrogate units. `text` reads a string,
`passText` passes over one that nobody asked for and is content with less: it takes any four
hexadecimal digits.
-/

namespace CombatContent.Json

/-- The value of a hexadecimal digit. -/
def hexDigit? (c : Char) : Option Nat :=
  if c.isDigit then some (c.toNat - '0'.toNat)
  else if 'a' ≤ c ∧ c ≤ 'f' then some (c.toNat - 'a'.toNat + 10)
  else if 'A' ≤ c ∧ c ≤ 'F' then some (c.toNat - 'A'.toNat + 10)
  else none

/-- The value of hexadecimal digits. -/
def hexValue? (cs : List Char) : Option Nat :=
  cs.foldlM (fun n c => (hexDigit? c).map (16 * n + ·)) 0

/-- Whether a character stands for itself in a string. -/
def isPlain (c : Char) : Bool :=
  c != '"' && c != '\\' && 0x20 ≤ c.toNat

/-- Reads four hexadecimal digits. Four bytes are used up before they are looked at. -/
def unit16 : Reader Nat := do
  let rest ← get
  let left := Text.byteCount rest
  if left < 4 then failAtEnd .endOfString
  match hexValue? (rest.take 4) with
  | some n =>
    set (rest.drop 4)
    return n
  | none => throw ⟨.badEscape, left - 4⟩

/-- Passes over the next character of a pair of surrogate units. -/
def expectInPair (c : Char) : Reader Unit := do
  match ← Scan.peek? with
  | none => failAtEnd .endOfString
  | some d => if d = c then Scan.advance else failNext .halfSurrogatePair

/-- Reads the character that hexadecimal digits name, after the letter of the escape. -/
def namedChar : Reader Char := do
  let first ← unit16
  if 0xdc00 ≤ first ∧ first ≤ 0xdfff then failHere .loneSurrogate
  else if 0xd800 ≤ first ∧ first ≤ 0xdbff then
    expectInPair '\\'
    expectInPair 'u'
    let second ← unit16
    if second < 0xdc00 ∨ 0xdfff < second then failHere .loneSurrogate
    else return Char.ofNat ((first - 0xd800) * 0x400 + (second - 0xdc00) + 0x10000)
  else return Char.ofNat first

/-- The character of a short escape. -/
def shortEscape? : Char → Option Char
  | '"' => some '"'
  | '\\' => some '\\'
  | '/' => some '/'
  | 'b' => some '\x08'
  | 'f' => some '\x0c'
  | 'n' => some '\n'
  | 'r' => some '\r'
  | 't' => some '\t'
  | _ => none

/-- Reads an escape after its backslash. -/
def escape : Reader Char := do
  match ← Scan.peek? with
  | none => failAtEnd .endOfString
  | some 'u' =>
    Scan.advance
    namedChar
  | some c =>
    match shortEscape? c with
    | some d =>
      Scan.advance
      return d
    | none => failNext .badEscape

/-- Reads a run of plain characters and what ends it; the flag says whether the string goes on. -/
def textStep (cs : List Char) : Reader (List Char × Bool) := do
  let run ← Scan.takeWhile isPlain
  match ← Scan.peek? with
  | none => failAtEnd .endOfString
  | some '"' =>
    Scan.advance
    return (cs ++ run, false)
  | some '\\' =>
    Scan.advance
    let c ← escape
    return (cs ++ run ++ [c], true)
  | some _ => failNext .controlCharacter

/-- Reads a string after its opening quote. -/
def text : Reader String := do
  return String.ofList (← Scan.repeatWhile textStep [])

/-- Passes over a run of plain characters and what ends it. -/
def passTextStep (_ : Unit) : Reader (Unit × Bool) := do
  let _ ← Scan.takeWhile isPlain
  match ← Scan.peek? with
  | none => failAtEnd .endOfString
  | some '"' =>
    Scan.advance
    return ((), false)
  | some '\\' =>
    Scan.advance
    match ← Scan.peek? with
    | none => failAtEnd .endOfString
    | some 'u' =>
      Scan.advance
      let _ ← unit16
      return ((), true)
    | some c =>
      if (shortEscape? c).isNone then failNext .badEscape
      Scan.advance
      return ((), true)
  | some _ => failHere .controlCharacter

/-- Passes over a string after its opening quote. -/
def passText : Reader Unit := Scan.repeatWhile passTextStep ()

end CombatContent.Json
