import CombatContent.Json.Number
import CombatContent.Json.Text

/-!
# JSON values

A text is one value with blanks around it. Lists and maps may be nested `maxDepth` deep. A key that
is given twice keeps its first place and takes its last value.

## Main definitions

* `value`: reads a value of bounded depth.
* `ofText`: reads a whole text.
-/

namespace CombatContent.Json

/-- Passes over the letters of a word after its first one. -/
def word (letters : List Char) : Reader Unit :=
  letters.forM fun letter => do
    match ← Scan.peek? with
    | none => failHere .endOfValue
    | some c => if c = letter then Scan.advance else failNext .wordWanted

/-- Reads a value that is neither list nor map, its first character being given and next. -/
def scalar (first : Char) : Reader Tree := do
  if first = 'n' then
    Scan.advance
    word ['u', 'l', 'l']
    return .null
  else if first = 't' then
    Scan.advance
    word ['r', 'u', 'e']
    return .boolean true
  else if first = 'f' then
    Scan.advance
    word ['a', 'l', 's', 'e']
    return .boolean false
  else if first = '-' then
    Scan.advance
    number true
  else if first.isDigit then number false
  else if first = '"' then
    Scan.advance
    return .text (← text)
  else failNext .valueWanted

/-- What comes next between the brackets of a list. -/
inductive ListTurn where
  | element
  | close

/-- Finds the next element of a list, or its end; `first` says that no element came before. -/
def listTurn (first : Bool) : Reader ListTurn := do
  skipBlanks
  match ← Scan.peek? with
  | none => failNext .endOfList
  | some c =>
    if c = ']' then return .close
    else if first then return .element
    else if c = ',' then
      Scan.advance
      skipBlanks
      match ← Scan.peek? with
      | none => failNext .endOfValue
      | some d => if d = ']' then failNext .trailingComma else return .element
    else failNext .listGoesOn

/-- What comes next between the braces of a map. -/
inductive MapTurn where
  | key
  | close

/-- Finds the next key of a map, or its end; `first` says that no member came before. -/
def mapTurn (first : Bool) : Reader MapTurn := do
  skipBlanks
  match ← Scan.peek? with
  | none => failNext .endOfMap
  | some c =>
    if c = '\x7d' then return .close
    else if first then
      if c = '"' then return .key else failNext .keyNotString
    else if c = ',' then
      Scan.advance
      skipBlanks
      match ← Scan.peek? with
      | none => failNext .endOfValue
      | some d =>
        if d = '"' then return .key
        else if d = '\x7d' then failNext .trailingComma
        else failNext .keyNotString
    else failNext .mapGoesOn

/-- Passes over the colon between a key and its value. -/
def colon : Reader Unit := do
  skipBlanks
  match ← Scan.peek? with
  | none => failNext .endOfMap
  | some c => if c = ':' then Scan.advance else failNext .colonWanted

/-- Reads the elements of a list and its closing bracket, the opening one being passed. -/
def listBody (element : Reader Tree) : Reader Tree := do
  let items ← Scan.repeatWhile (fun (items : List Tree) => do
    match ← listTurn items.isEmpty with
    | .close => return (items, false)
    | .element => return ((← element) :: items, true)) []
  Scan.advance
  return .list items.reverse

/-- Reads the members of a map and its closing brace, the opening one being passed. -/
def mapBody (element : Reader Tree) : Reader Tree := do
  let members ← Scan.repeatWhile (fun (members : Members) => do
    match ← mapTurn members.isEmpty with
    | .close => return (members, false)
    | .key =>
      Scan.advance
      let key ← text
      colon
      return (members.put key (← element), true)) []
  Scan.advance
  return .map members

/-- Reads a value, given a reader for what is nested in it if anything may be. -/
def valueWith (nested : Option (Reader Tree)) : Reader Tree := do
  skipBlanks
  match ← Scan.peek? with
  | none => failNext .endOfValue
  | some c =>
    if c = '[' ∨ c = '\x7b' then
      match nested with
      | none => failNext .tooDeep
      | some element =>
        Scan.advance
        if c = '[' then listBody element else mapBody element
    else scalar c

/-- Reads a value that nests lists and maps no deeper than given. -/
def value : Nat → Reader Tree
  | 0 => valueWith none
  | depth + 1 => valueWith (some (value depth))

/-- How deep lists and maps may be nested. -/
def maxDepth : Nat := 127

/-- Fails unless only blanks are left. -/
def finishText : Reader Unit := do
  skipBlanks
  unless ← Scan.atEnd do failNext .trailingText

/-- Reads a whole text as one value. -/
def ofText (cs : List Char) : Except Fault Tree :=
  (do
    let tree ← value maxDepth
    finishText
    return tree : Reader Tree).run' cs

end CombatContent.Json
