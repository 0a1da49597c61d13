import CombatContent.Toml.DateTime
import CombatContent.Toml.Number
import CombatContent.Toml.Table

/-!
# TOML documents

A text is read line by line into the root table: a header changes the table that members go to, and
a member is a key and its value. A date-time becomes a map of one member that holds its normal form.

## Main definitions

* `value`: reads a value of bounded depth.
* `ofText`: reads a whole text.
-/

namespace CombatContent.Toml

open Scan (fail expect)

variable {α : Type}

/-- An answer that may be refused. -/
def orFail : Option α → Reader α
  | some a => return a
  | none => fail

/-- The key of the one member that a date-time becomes. -/
def dateTimeKey : String := "$__toml_private_datetime"

/-- A date-time as a value. -/
def DateTime.tree (d : DateTime) : Tree := .map [(dateTimeKey, .text d.text)]

/-- Reads a value of digits and signs. -/
def figure : Reader Tree := do
  match ← Scan.optional dateTime with
  | some d => return d.tree
  | none => number

/-- Reads an element of a list and the comma or bracket after it, or a bracket. -/
def listStep (element : Reader Tree) (items : List Tree) : Reader (List Tree × Bool) := do
  skipLines
  if ← Scan.accept "]" then return (items, false)
  let t ← element
  skipLines
  if ← Scan.accept "," then return (t :: items, true)
  expect "]"
  return (t :: items, false)

/-- Reads a list after its opening bracket. -/
def listBody (element : Reader Tree) : Reader Tree := do
  let items ← Scan.repeatWhile (listStep element) []
  return .list items.reverse

/-- Reads a key, the equals sign and the value. -/
def member (element : Reader Tree) : Reader (KeyPath × Tree) := do
  let path ← keyPath
  expect "="
  skipBlanks
  return (path, ← element)

/-- Reads a member of an inline table and the comma or brace after it. -/
def mapStep (element : Reader Tree) (ms : Table) : Reader (Table × Bool) := do
  let (path, t) ← member element
  let ms ← orFail (ms.put path.front path.last t)
  skipBlanks
  if ← Scan.accept "," then return (ms, true)
  expect "\x7d"
  return (ms, false)

/-- Reads an inline table after its opening brace. -/
def mapBody (element : Reader Tree) : Reader Tree := do
  skipBlanks
  if ← Scan.accept "\x7d" then return .map []
  let ms ← Scan.repeatWhile (mapStep element) []
  return .map (memberTrees ms)

/-- Reads what is nested in a value, if anything may be. -/
def nestedValue : Option (Reader Tree) → (Reader Tree → Reader Tree) → Reader Tree
  | some element, body => do
    Scan.advance
    body element
  | none, _ => fail

/-- Reads a value, given a reader for what is nested in it if anything may be. -/
def valueWith (nested : Option (Reader Tree)) : Reader Tree := do
  match ← Scan.peek? with
  | some '"' => return .text (← string)
  | some '\'' => return .text (← string)
  | some '[' => nestedValue nested listBody
  | some '\x7b' => nestedValue nested mapBody
  | some c =>
    if c.isDigit || c == '+' || c == '-' then figure
    else if ← Scan.accept "true" then return .boolean true
    else if ← Scan.accept "false" then return .boolean false
    else if ← Scan.accept "inf" then return .null
    else if ← Scan.accept "nan" then return .null
    else fail
  | none => fail

/-- Reads a value that nests lists and tables no deeper than given. -/
def value : Nat → Reader Tree
  | 0 => valueWith none
  | depth + 1 => valueWith (some (value depth))

/-- How deep lists and inline tables may be nested. -/
def maxDepth : Nat := 79

/-- The tables gathered so far, and the way to the one that members go to. -/
structure Gathering where
  root : Table
  here : List String

/-- Reads a header after its opening bracket. -/
def header (g : Gathering) : Reader Gathering := do
  let isElement ← Scan.accept "["
  let path ← keyPath
  expect (if isElement then "]]" else "]")
  endOfLine
  let root ← orFail <|
    if isElement then g.root.openElement path.front path.last
    else g.root.openTable path.front path.last
  return ⟨root, path.front ++ [path.last]⟩

/-- Reads a member and puts it where the last header leads. -/
def memberLine (g : Gathering) : Reader Gathering := do
  let (path, t) ← member (value maxDepth)
  endOfLine
  return ⟨← orFail (g.root.putAt g.here path.front path.last t), g.here⟩

/-- Whether a line begins with the character when nothing is on it but a comment. -/
def opensIdleLine (c : Char) : Bool := c == '#' || c == '\n' || c == '\r'

/-- Reads a line. -/
def lineStep (g : Gathering) : Reader (Gathering × Bool) := do
  skipBlanks
  match ← Scan.peek? with
  | none => return (g, false)
  | some c =>
    if opensIdleLine c then
      endOfLine
      return (g, true)
    else if ← Scan.accept "[" then return (← header g, true)
    else return (← memberLine g, true)

/-- Reads a whole text, which may begin with a mark of its encoding. -/
def ofText (cs : List Char) : Option Tree :=
  let reader : Reader Tree := do
    let _ ← Scan.accept "\ufeff"
    let g ← Scan.repeatWhile lineStep ⟨[], []⟩
    return .map (memberTrees g.root)
  (reader.run' cs).toOption

end CombatContent.Toml
