/-!
# Zig strings

A string is put between double quotes. The backslash, the double quote, the two line ends and the
tab are escaped; every other character stands for itself.

## Main definitions

* `quoted`: the string literal of a text.
* `unescape?`: the text of the characters between the quotes.

## Main statements

* `unescape?_escaped`: what was escaped reads back.
-/

namespace CombatContent.Zig

/-- One character of a string literal. -/
def escape (c : Char) : List Char :=
  if c = '\\' then ['\\', '\\']
  else if c = '"' then ['\\', '"']
  else if c = '\n' then ['\\', 'n']
  else if c = '\r' then ['\\', 'r']
  else if c = '\t' then ['\\', 't']
  else [c]

/-- The characters between the quotes of a string literal. -/
def escaped (cs : List Char) : List Char := cs.flatMap escape

/-- The string literal of a text. -/
def quoted (s : String) : String :=
  String.ofList ('"' :: escaped s.toList ++ ['"'])

/-- The character that a letter stands for after a backslash. -/
def unescapeChar? (c : Char) : Option Char :=
  if c = '\\' then some '\\'
  else if c = '"' then some '"'
  else if c = 'n' then some '\n'
  else if c = 'r' then some '\r'
  else if c = 't' then some '\t'
  else none

/-- The text that characters between quotes stand for, if they are escaped as they should be. -/
def unescape? : List Char → Option (List Char)
  | [] => some []
  | '\\' :: c :: cs => do
    let d ← unescapeChar? c
    return d :: (← unescape? cs)
  | c :: cs => if c = '\\' ∨ c = '"' then none else (unescape? cs).map (c :: ·)

/-- An escaped character reads back, whatever follows it. -/
theorem unescape?_escape_append (c : Char) (cs : List Char) :
    unescape? (escape c ++ cs) = (unescape? cs).map (c :: ·) := by
  unfold escape
  split
  · next h => subst h; cases h' : unescape? cs <;> simp [unescape?, unescapeChar?, h']
  · split
    · next h => subst h; cases h' : unescape? cs <;> simp [unescape?, unescapeChar?, h']
    · split
      · next h => subst h; cases h' : unescape? cs <;> simp [unescape?, unescapeChar?, h']
      · split
        · next h => subst h; cases h' : unescape? cs <;> simp [unescape?, unescapeChar?, h']
        · split
          · next h => subst h; cases h' : unescape? cs <;> simp [unescape?, unescapeChar?, h']
          · next h₁ h₂ _ _ _ =>
            rw [List.singleton_append, unescape?]
            · simp [h₁, h₂]
            · intro d ds hd
              exact absurd hd h₁

/-- What was escaped reads back. -/
theorem unescape?_escaped (cs : List Char) : unescape? (escaped cs) = some cs := by
  induction cs with
  | nil => rfl
  | cons c cs ih =>
    rw [escaped, List.flatMap_cons, unescape?_escape_append, ← escaped, ih, Option.map_some]

end CombatContent.Zig
