import CombatContent.Decimal.Numeral
import CombatContent.Json.Text
import CombatContent.Text.Scan
import CombatContent.Tree

/-!
# Words of RON

Blanks and comments, identifiers, strings, characters and numbers. Block comments nest. An
identifier of letters, digits and underscores must not run on into a point or a sign; one that is
marked as raw may hold them. What is wrong with a text is not told apart.
-/

namespace CombatContent.Ron

open Scan (fail expect)

/-- A reader of RON text. -/
abbrev Reader := Scan Unit

/-- Whether a character is a blank. -/
def isBlank (c : Char) : Bool := c == ' ' || c == '\n' || c == '\t' || c == '\r'

/-- Whether an identifier may begin with a character. -/
def isFirst (c : Char) : Bool := c.isAlpha || c == '_'

/-- Whether an identifier may go on with a character. -/
def isOther (c : Char) : Bool := c.isAlphanum || c == '_'

/-- Whether a raw identifier may hold a character. -/
def isRaw (c : Char) : Bool := isOther c || c == '.' || c == '+' || c == '-'

/-- Passes over what closes or opens a block comment, or over what is between; the state is how
many comments are open. -/
def blockCommentStep (depth : Nat) : Reader (Nat × Bool) := do
  let _ ← Scan.takeWhile fun c => c != '/' && c != '*'
  if ← Scan.accept "/*" then return (depth + 1, true)
  else if ← Scan.accept "*/" then return (depth - 1, 1 < depth)
  else if ← Scan.atEnd then fail
  else
    Scan.advance
    return (depth, true)

/-- Passes over blanks and one comment; the flag says whether there was a comment. -/
def blankStep (_ : Unit) : Reader (Unit × Bool) := do
  let _ ← Scan.takeWhile isBlank
  if ← Scan.accept "//" then
    let _ ← Scan.takeWhile (· != '\n')
    return ((), true)
  else if ← Scan.accept "/*" then
    let _ ← Scan.repeatWhile blockCommentStep 1
    return ((), true)
  else if ← Scan.lookingAt "/" then fail
  else return ((), false)

/-- Passes over blanks and comments. -/
def skipBlanks : Reader Unit := Scan.repeatWhile blankStep ()

/-- Passes over blanks and a comma, if there is one; the flag says whether there was. -/
def comma : Reader Bool := do
  skipBlanks
  if ← Scan.accept "," then
    skipBlanks
    return true
  else
    return false

/-- Reads an identifier that is not marked as raw. -/
def bareIdentifier : Reader String := do
  let rest ← get
  let word := rest.takeWhile isOther
  if word.length < (rest.takeWhile isRaw).length then fail
  set (rest.drop word.length)
  return String.ofList word

/-- Reads an identifier. A letter `r` that opens a raw string is none. -/
def identifier : Reader String := do
  match ← get with
  | 'r' :: '"' :: _ => fail
  | 'r' :: '#' :: c :: cs =>
    if isRaw c then
      let word := (c :: cs).takeWhile isRaw
      set ((c :: cs).drop word.length)
      return String.ofList word
    else fail
  | ['r', '#'] => fail
  | ['r'] => fail
  | c :: _ => if isFirst c then bareIdentifier else fail
  | [] => fail

/-- Takes the word if it is next and is not part of a longer one. -/
def acceptWord (word : String) : Reader Bool := do
  let rest ← get
  if word.toList.isPrefixOf rest && !((rest.drop word.length).head?.any isOther) then
    set (rest.drop word.length)
    return true
  else
    return false

/-- Reads a hexadecimal digit. -/
def hexDigit : Reader Nat := do
  match ← Scan.next? with
  | some c =>
    match Json.hexDigit? c with
    | some n => return n
    | none => fail
  | none => fail

/-- Reads hexadecimal digits up to a closing brace, six at most, into a number; the state is the
number and how many digits there were. -/
def scalarStep (state : Nat × Nat) : Reader ((Nat × Nat) × Bool) := do
  if state.2 = 6 then return (state, false)
  else if ← Scan.lookingAt "\x7d" then return (state, false)
  else return ((16 * state.1 + (← hexDigit), state.2 + 1), true)

/-- Reads the character of a number between braces. -/
def bracedChar : Reader Char := do
  expect "\x7b"
  let (n, count) ← Scan.repeatWhile scalarStep (0, 0)
  if count = 0 then fail
  expect "\x7d"
  if n.isValidChar then return Char.ofNat n else fail

/-- Reads an escape after its backslash. -/
def escape : Reader Char := do
  match ← Scan.next? with
  | some '\'' => return '\''
  | some '"' => return '"'
  | some '\\' => return '\\'
  | some 'n' => return '\n'
  | some 'r' => return '\r'
  | some 't' => return '\t'
  | some '0' => return '\x00'
  | some 'x' => return Char.ofNat (16 * (← hexDigit) + (← hexDigit))
  | some 'u' => bracedChar
  | _ => fail

/-- Reads a run of plain characters and what ends it. -/
def stringStep (cs : List Char) : Reader (List Char × Bool) := do
  let run ← Scan.takeWhile fun c => c != '"' && c != '\\'
  match ← Scan.next? with
  | some '"' => return (cs ++ run, false)
  | some _ => return (cs ++ run ++ [← escape], true)
  | none => fail

/-- The characters in front of a closing mark, and those after it. -/
def splitAtMark (mark : List Char) : List Char → Option (List Char × List Char)
  | [] => none
  | c :: cs =>
    if mark.isPrefixOf (c :: cs) then some ([], (c :: cs).drop mark.length)
    else (splitAtMark mark cs).map fun (front, back) => (c :: front, back)

/-- Reads a raw string after its letter: the quote that closes it is followed by as many hashes as
stand before the quote that opens it. -/
def rawString : Reader String := do
  let hashes ← Scan.takeWhile (· == '#')
  expect "\""
  match splitAtMark ('"' :: hashes) (← get) with
  | some (content, rest) =>
    set rest
    return String.ofList content
  | none => fail

/-- Reads a string of either form. -/
def string : Reader String := do
  if ← Scan.accept "\"" then return String.ofList (← Scan.repeatWhile stringStep [])
  else if ← Scan.accept "r" then rawString
  else fail

/-- Reads a character between apostrophes. -/
def character : Reader Char := do
  expect "'"
  let c ← match ← Scan.next? with
    | some '\\' => escape
    | some '\'' => fail
    | some c => pure c
    | none => fail
  expect "'"
  return c

/-- Whether a character may stand in an integer of any base. -/
def isIntegerChar (c : Char) : Bool := (Json.hexDigit? c).isSome || c == '_'

/-- Whether a character may stand in a number with a point or an exponent. -/
def isFloatChar (c : Char) : Bool :=
  c.isDigit || c == '.' || c == 'e' || c == 'E' || c == '+' || c == '-' || c == '_'

/-- The value of digits of a base, underscores between them left out. -/
def digitsIn? (base : Nat) (cs : List Char) : Option Nat :=
  if cs.head? = some '_' ∨ cs = [] then none
  else
    (cs.filter (· != '_')).foldlM (fun n c => do
      let d ← Json.hexDigit? c
      if d < base then some (base * n + d) else none) 0

/-- Splits the mark of a base off digits. -/
def splitBase : List Char → Nat × List Char
  | '0' :: 'x' :: cs => (16, cs)
  | '0' :: 'b' :: cs => (2, cs)
  | '0' :: 'o' :: cs => (8, cs)
  | cs => (10, cs)

/-- The integer in front of a text and what follows it, if it is one of sixty-four bits. A sign
makes it a signed integer. -/
def integer? (cs : List Char) : Option (Int × List Char) := do
  let isSigned := cs.head? = some '-' ∨ cs.head? = some '+'
  let (negative, size) := Decimal.splitSign cs
  let (base, digits) := splitBase size
  let (word, rest) := digits.span isIntegerChar
  let n ← digitsIn? base word
  let bound :=
    if negative then Nat.pow 2 63 + 1 else if isSigned then Nat.pow 2 63 else Nat.pow 2 64
  if n < bound then some (if negative then -(n : Int) else n, rest) else none

/-- Whether a text goes on as a number with a point or an exponent for longer than as an
integer. -/
def looksLikeFloat (cs : List Char) : Bool :=
  let (_, size) := Decimal.splitSign cs
  (size.takeWhile isIntegerChar).length < (size.takeWhile isFloatChar).length

/-- Reads a number that is no integer. Infinite numbers, and what is no number, are null. -/
def float : Reader Tree := do
  for word in ["inf", "+inf", "-inf", "NaN", "+NaN", "-NaN"] do
    if ← acceptWord word then return .null
  let word ← Scan.takeWhile isFloatChar
  match Decimal.float? word with
  | some x => return if x.isFinite then .float x else .null
  | none => fail

/-- Reads a number. An integer that does not fit sixty-four bits is read as a double. -/
def number : Reader Tree := do
  let rest ← get
  if looksLikeFloat rest then float
  else
    match integer? rest with
    | some (n, rest) =>
      set rest
      return .integer n
    | none => float

end CombatContent.Ron
