/-!
# Positions in a text

Readers count what they have not read yet, in bytes. From that count and the whole text follows a
line, counted from one, and a column, counted in bytes from the start of the line.
-/

namespace CombatContent.Text

/-- The bytes that a run of characters takes. -/
def byteCount (cs : List Char) : Nat :=
  cs.foldr (fun c n => c.utf8Size + n) 0

/-- A line, counted from one, and the bytes before a place on it. -/
structure Position where
  line : Nat
  column : Nat
  deriving DecidableEq, Repr

/-- Goes `bytes` bytes on through a text. -/
def Position.advance (p : Position) : List Char → Nat → Position
  | [], _ => p
  | c :: cs, bytes =>
    if bytes < c.utf8Size then ⟨p.line, p.column + bytes⟩
    else if c = '\n' then Position.advance ⟨p.line + 1, 0⟩ cs (bytes - c.utf8Size)
    else Position.advance ⟨p.line, p.column + c.utf8Size⟩ cs (bytes - c.utf8Size)

/-- The place in a text that has `unread` bytes after it. -/
def Position.ofUnread (cs : List Char) (unread : Nat) : Position :=
  Position.advance ⟨1, 0⟩ cs (byteCount cs - unread)

end CombatContent.Text
