import CombatContent.Ron.Lexis

/-!
# RON values

Maps, lists, tuples, structs and scalars become the same tree as in other formats. Tuples are lists;
the names of structs are dropped; an optional value is null or what it holds; a unit and a bare
identifier are null.

A value leads at most `maxSteps` steps inwards. Into a container, which is a map, a list, a tuple or
a struct, is a step, and from there to a key, an element or a value is another; to what an optional
value holds is one step.

A text may ask for extensions. One of them changes what is read: the parentheses of an optional
value may then be left out.

A struct of a document has one field: its further keys would have to be strings, and the keys of a
struct are identifiers. The keys of a map of a document are strings. What is only passed over is
not held to this.
-/

namespace CombatContent.Ron

open Scan (fail expect)

variable {α : Type}

/-- What a value is read for. -/
inductive Purpose where
  | document
  | passOver
  deriving DecidableEq

/-- How a value is read: what for, and whether an optional value may do without parentheses. -/
structure Manner where
  purpose : Purpose
  bareSome : Bool

/-- The readers for what lies inside a value: what an optional value holds, and the parts of a
container. There is none for parts where no container may be opened. -/
structure Inside where
  held : Reader Tree
  part? : Option (Reader Tree)

/-- Whether there is another item before the closing mark. Items are parted by commas; `parted` says
that the place reached is the first one or follows a comma. -/
def anotherItem (close : Char) (parted : Bool) : Reader Bool := do
  skipBlanks
  match ← Scan.peek? with
  | none => fail
  | some c =>
    if c = close then return false
    else if parted then return true
    else fail

/-- Reads items up to a closing mark, and the mark. -/
def items (close : Char) (item : Reader α) : Reader (List α) := do
  let (_, found) ← Scan.repeatWhile (fun (state : Bool × List α) => do
    if ← anotherItem close state.1 then
      let a ← item
      return ((← comma, a :: state.2), true)
    else return (state, false)) (true, [])
  skipBlanks
  expect (String.singleton close)
  return found.reverse

/-- Reads the parts of a container, each by what is made of the reader for parts. -/
def Inside.parts (inside : Inside) (close : Char) (item : Reader Tree → Reader α) :
    Reader (List α) :=
  match inside.part? with
  | some part => items close (item part)
  | none => fail

/-- Passes over the colon of a member and reads its value. -/
def memberValue (nested : Reader Tree) : Reader Tree := do
  skipBlanks
  expect ":"
  skipBlanks
  nested

/-- Reads a member of a map. -/
def mapMember (purpose : Purpose) (nested : Reader Tree) : Reader (String × Tree) := do
  let key ← if purpose = .document then string else (do let _ ← nested; return "")
  return (key, ← memberValue nested)

/-- Reads a field of a struct. -/
def structField (nested : Reader Tree) : Reader (String × Tree) := do
  let key ← identifier
  return (key, ← memberValue nested)

/-- Whether an identifier and a colon follow, so that what was opened is a struct. -/
def opensStruct : Reader Bool := do
  let ahead ← Scan.lookAhead (do
    skipBlanks
    let _ ← identifier
    skipBlanks
    Scan.lookingAt ":")
  return ahead.getD false

/-- Reads a struct or a tuple after its opening parenthesis. -/
def parenthesised (purpose : Purpose) (inside : Inside) : Reader Tree := do
  if ← opensStruct then
    let fields ← inside.parts ')' structField
    if purpose = .document && 1 < fields.length then fail
    return .map fields
  else
    return .list (← inside.parts ')' id)

/-- Reads what an optional value holds, after its name; `bareSome` says whether the parentheses may
be left out. -/
def someValue (bareSome : Bool) (held : Reader Tree) : Reader Tree := do
  skipBlanks
  if ← Scan.accept "(" then
    skipBlanks
    let t ← held
    let _ ← comma
    expect ")"
    return t
  else if bareSome then held
  else fail

/-- Reads what follows the name of a struct, if it has one. -/
def afterName (purpose : Purpose) (inside : Inside) : Reader Tree := do
  if ← Scan.accept "(" then parenthesised purpose inside else return .null

/-- The members of a map, the last value of a repeated key in its first place. -/
def gatherMembers (ms : List (String × Tree)) : Members :=
  ms.foldl (fun (found : Members) m => found.put m.1 m.2) []

/-- Reads a value that begins with neither a word nor a name. -/
def plainValue (purpose : Purpose) (inside : Inside) : Reader Tree := do
  match ← Scan.peek? with
  | some '(' =>
    Scan.advance
    parenthesised purpose inside
  | some '[' =>
    Scan.advance
    return .list (← inside.parts ']' id)
  | some '\x7b' =>
    Scan.advance
    return .map (gatherMembers (← inside.parts '\x7d' (mapMember purpose)))
  | some '"' => return .text (← string)
  | some 'r' => return .text (← string)
  | some '\'' => return .text (String.singleton (← character))
  | some c =>
    if c.isDigit || c == '+' || c == '-' || c == '.' then number else fail
  | none => fail

/-- Reads a value, given readers for what lies inside it. -/
def valueWith (manner : Manner) (inside : Inside) : Reader Tree := do
  if ← acceptWord "true" then return .boolean true
  else if ← acceptWord "false" then return .boolean false
  else if ← acceptWord "Some" then someValue manner.bareSome inside.held
  else if ← acceptWord "None" then return .null
  else if ← Scan.accept "()" then return .null
  else if ← acceptWord "inf" then return .null
  else if ← acceptWord "-inf" then return .null
  else if ← acceptWord "NaN" then return .null
  else
    match ← Scan.optional identifier with
    | some _ =>
      skipBlanks
      afterName manner.purpose inside
    | none => plainValue manner.purpose inside

/-- Reads a value that leads at most the given number of steps inwards. -/
def value (manner : Manner) : Nat → Reader Tree
  | 0 => valueWith manner ⟨fail, none⟩
  | 1 => valueWith manner ⟨value manner 0, some fail⟩
  | steps + 2 => valueWith manner ⟨value manner (steps + 1), some (value manner steps)⟩

/-- How many steps inwards a text may lead. -/
def maxSteps : Nat := 128

/-- The name of the extension by which an optional value may do without parentheses. -/
def bareSomeExtension : String := "implicit_some"

/-- The names of the extensions that a text may ask for. -/
def extensions : List String := ["unwrap_newtypes", bareSomeExtension, "unwrap_variant_newtypes"]

/-- Reads the name of an extension; the flag says whether another may follow. The state is what was
asked for so far. -/
def extensionStep (asked : List String) : Reader (List String × Bool) := do
  let name ← identifier
  unless extensions.contains name do fail
  let parted ← comma
  let more := (← Scan.peek?).any isOther
  if more && !parted then fail
  return (name :: asked, more)

/-- Reads an attribute that asks for extensions, if there is one; the flag says so. The state is
what was asked for so far. -/
def attributeStep (asked : List String) : Reader (List String × Bool) := do
  skipBlanks
  if ← Scan.lookingAt "#" then
    for word in ["#", "!", "[", "enable", "("] do
      expect word
      skipBlanks
    let asked ← Scan.repeatWhile extensionStep asked
    skipBlanks
    expect ")"
    skipBlanks
    expect "]"
    return (asked, true)
  else return (asked, false)

/-- Reads a whole text: attributes, what is wanted, and nothing after it but blanks. What is wanted
depends on whether an optional value may do without parentheses. -/
def wholeText (wanted : Bool → Reader α) (cs : List Char) : Option α :=
  let reader : Reader α := do
    let asked ← Scan.repeatWhile attributeStep []
    let a ← wanted (asked.contains bareSomeExtension)
    skipBlanks
    unless ← Scan.atEnd do fail
    return a
  (reader.run' cs).toOption

/-- Reads a whole text as one value. -/
def ofText (cs : List Char) : Option Tree :=
  wholeText (fun bareSome => value ⟨.document, bareSome⟩ maxSteps) cs

end CombatContent.Ron
