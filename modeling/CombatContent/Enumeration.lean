import CombatContent.NameSet
import CombatContent.Text.Blank
import CombatContent.Text.Lines

/-!
# The committed enumeration of technique ids

A source file of the host program declares the technique ids in a block. The block starts after
the first line that begins with a given mark, and ends before the next line that begins with
another, or with the text. Lines are looked at without the blanks at their ends. In the block, empty
lines and lines that begin with the comment mark are passed over; every other line names an id up to
a comment, without the commas that follow it. An id between quotes after an at sign is the same id
without them.

## Main definitions

* `Enumeration.Format`: the marks of the block.
* `Enumeration.read`: the ids that a text declares.
-/

namespace CombatContent.Enumeration

/-- How the block of an enumeration is set off, and how its comments begin. -/
structure Format where
  blockStart : String := "pub const TechniqueID"
  blockEnd : String := "\x7d;"
  commentMark : String := "//"
  deriving DecidableEq, Repr

/-- Whether a line begins with a mark. -/
def begins (mark : String) (line : List Char) : Bool :=
  mark.toList.isPrefixOf line

/-- The characters before the first place where a mark stands. -/
def upTo (mark : List Char) : List Char → List Char
  | [] => []
  | c :: cs => if mark.isPrefixOf (c :: cs) then [] else c :: upTo mark cs

/-- Takes an at sign and quotes off a name that has them. -/
def unquoted : List Char → List Char
  | '@' :: '"' :: cs => if cs.getLast? = some '"' then cs.dropLast else '@' :: '"' :: cs
  | cs => cs

/-- The name on a line of the block, without its comment and commas; it may be empty. -/
def nameOn (format : Format) (line : List Char) : List Char :=
  unquoted <|
    Text.dropEndWhile (· == ',') <| Text.trim <| upTo format.commentMark.toList line

/-- The id that a line of the block declares. -/
def idOn? (format : Format) (line : List Char) : Option String :=
  if line.isEmpty || begins format.commentMark line then none
  else
    let name := nameOn format line
    if name.isEmpty then none else some (String.ofList name)

/-- The lines of the block, without the blanks at their ends. -/
def blockLines (format : Format) (text : List Char) : List (List Char) :=
  let fromStart :=
    ((Text.lines text).map Text.trim).dropWhile fun line => !begins format.blockStart line
  fromStart.tail.takeWhile fun line => !begins format.blockEnd line

/-- The ids that a text declares. -/
def read (format : Format) (text : String) : NameSet :=
  NameSet.ofList ((blockLines format text.toList).filterMap (idOn? format))

end CombatContent.Enumeration
