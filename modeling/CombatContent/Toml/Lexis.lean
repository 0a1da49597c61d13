import CombatContent.Json.Text
import CombatContent.Text.Scan

/-!
# Words of TOML

Blanks, line ends and comments, the four forms of strings, and keys. A line ends with a line feed,
with or without a carriage return before it, or with the text. A carriage return that stands alone
is refused, as every other control character but the tab is. What is wrong with a text is not told
apart.

## Main definitions

* `lineBreak`, `comment`, `endOfLine`: what stands between words.
* `string`: a string of any form.
* `keyPath`: a key, which may be dotted.
-/

namespace CombatContent.Toml

open Scan (fail expect)

/-- A reader of TOML text. -/
abbrev Reader := Scan Unit

/-- Whether a character is a blank within a line. -/
def isBlank (c : Char) : Bool := c == ' ' || c == '\t'

/-- Whether a character may stand in comments and, quotes and backslashes aside, in strings. -/
def isPrintable (c : Char) : Bool :=
  c == '\t' || (0x20 ≤ c.toNat && c.toNat ≤ 0x7e) || 0x80 ≤ c.toNat

/-- Passes over blanks within a line. -/
def skipBlanks : Reader Unit := do
  let _ ← Scan.takeWhile isBlank

/-- Passes over a line break, if there is one; the flag says whether there was. -/
def lineBreak : Reader Bool := do
  if ← Scan.accept "\n" then return true else Scan.accept "\r\n"

/-- Passes over a comment, if there is one; the flag says whether there was. -/
def comment : Reader Bool := do
  if ← Scan.accept "#" then
    let _ ← Scan.takeWhile isPrintable
    return true
  else
    return false

/-- Passes over what may end a line: blanks, a comment, and a line break or the end of the text. -/
def endOfLine : Reader Unit := do
  skipBlanks
  let _ ← comment
  unless ← lineBreak do
    unless ← Scan.atEnd do fail

/-- Passes over blanks, line breaks and comments. -/
def skipLines : Reader Unit :=
  Scan.repeatWhile (fun _ => do
    skipBlanks
    if ← comment then return ((), true) else return ((), ← lineBreak)) ()

/-- Reads a character named by so many hexadecimal digits. -/
def namedChar (count : Nat) : Reader Char := do
  let digits := (← get).take count
  match Json.hexValue? digits with
  | some n =>
    modify (List.drop count)
    if digits.length = count ∧ n.isValidChar then return Char.ofNat n else fail
  | none => fail

/-- Reads an escape after its backslash. -/
def escape : Reader Char := do
  match ← Scan.next? with
  | some 'b' => return '\x08'
  | some 't' => return '\t'
  | some 'n' => return '\n'
  | some 'f' => return '\x0c'
  | some 'r' => return '\r'
  | some '"' => return '"'
  | some '\\' => return '\\'
  | some 'u' => namedChar 4
  | some 'U' => namedChar 8
  | _ => fail

/-- Whether a character stands for itself in a string with escapes. -/
def isPlain (c : Char) : Bool := isPrintable c && c != '"' && c != '\\'

/-- Reads a run of plain characters and what ends it. -/
def basicStep (cs : List Char) : Reader (List Char × Bool) := do
  let run ← Scan.takeWhile isPlain
  match ← Scan.next? with
  | some '"' => return (cs ++ run, false)
  | some '\\' => return (cs ++ run ++ [← escape], true)
  | _ => fail

/-- Reads a string with escapes after its opening quote. -/
def basicString : Reader String := do
  return String.ofList (← Scan.repeatWhile basicStep [])

/-- Reads a string without escapes after its opening apostrophe. -/
def literalString : Reader String := do
  let run ← Scan.takeWhile fun c => isPrintable c && c != '\''
  expect "'"
  return String.ofList run

/-- Passes over a backslash that ends a line, and the blanks and line breaks after it, if there is
one; the flag says whether there was. -/
def lineJoin : Reader Bool := do
  let joined ← Scan.optional (do
    expect "\\"
    skipBlanks
    unless ← lineBreak do fail : Reader Unit)
  if joined.isSome then
    Scan.repeatWhile (fun _ => do
      skipBlanks
      return ((), ← lineBreak)) ()
  return joined.isSome

/-- Reads what stands at the end of a run of plain characters in a string of many lines: quotes, a
line break, or an escape. Three quotes end the string, and up to two more before them belong to
it. -/
def linesTurn (quote : Char) (escapes : Bool) (cs : List Char) : Reader (List Char × Bool) := do
  let quotes ← Scan.takeWhile (· == quote)
  if 6 ≤ quotes.length then fail
  else if 3 ≤ quotes.length then return (cs ++ quotes.drop 3, false)
  else if !quotes.isEmpty then return (cs ++ quotes, true)
  else if ← lineBreak then return (cs ++ ['\n'], true)
  else if escapes then
    if ← lineJoin then return (cs, true)
    expect "\\"
    return (cs ++ [← escape], true)
  else fail

/-- Reads a run of plain characters of a string of many lines and what ends it. -/
def linesStep (quote : Char) (escapes : Bool) (cs : List Char) : Reader (List Char × Bool) := do
  let run ← Scan.takeWhile fun c => isPrintable c && c != quote && (!escapes || c != '\\')
  linesTurn quote escapes (cs ++ run)

/-- Reads a string of many lines after its three opening quotes. A line break right after them is
passed over. -/
def linesString (quote : Char) (escapes : Bool) : Reader String := do
  let _ ← lineBreak
  return String.ofList (← Scan.repeatWhile (linesStep quote escapes) [])

/-- Reads a string of any form. -/
def string : Reader String := do
  if ← Scan.accept "\"\"\"" then linesString '"' true
  else if ← Scan.accept "\"" then basicString
  else if ← Scan.accept "'''" then linesString '\'' false
  else if ← Scan.accept "'" then literalString
  else fail

/-- Whether a character may stand in a bare key. -/
def isBare (c : Char) : Bool := c.isAlphanum || c == '_' || c == '-'

/-- Reads one part of a key. -/
def keyPart : Reader String := do
  if ← Scan.accept "\"" then basicString
  else if ← Scan.accept "'" then literalString
  else
    let run ← Scan.takeWhile isBare
    if run.isEmpty then fail else return String.ofList run

/-- A key of one part or of several parted by points: the parts in front, and the last one. -/
structure KeyPath where
  front : List String
  last : String

/-- The number of parts that a key has to stay below. -/
def partsBound : Nat := 80

/-- Reads a key, with blanks around its parts. -/
def keyPath : Reader KeyPath := do
  skipBlanks
  let first ← keyPart
  skipBlanks
  let path ← Scan.repeatWhile (fun (path : KeyPath) => do
    if ← Scan.accept "." then
      skipBlanks
      let part ← keyPart
      skipBlanks
      return (⟨path.front ++ [path.last], part⟩, true)
    else return (path, false)) ⟨[], first⟩
  if partsBound ≤ path.front.length + 1 then fail else return path

end CombatContent.Toml
