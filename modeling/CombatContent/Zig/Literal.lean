import CombatContent.Decimal.Fixed
import CombatContent.Text.Blank
import CombatContent.Zig.Quoted

/-!
# Zig literals

The values of generated tables as data, and the one text of each. A number has at most four places.
A member of a named type is written as it is. Records, tuples and slices stand on
one line, between braces.
-/

namespace CombatContent.Zig

/-- A value of a table. -/
inductive Literal where
  | null
  | boolean (value : Bool)
  | integer (value : Int)
  | number (value : Float)
  | string (value : String)
  | member (scope : String) (word : String)
  | record (fields : List (String × Literal))
  | tuple (items : List Literal)
  | slice (items : List Literal)
  deriving Inhabited

/-- Takes the zeros off the end of a numeral with places, and then the points left there. -/
def trimPlaces (digits : List Char) : List Char :=
  Text.dropEndWhile (· == '.') (Text.dropEndWhile (· == '0') digits)

/-- A number with at most four places. -/
def float (x : Float) : String :=
  String.ofList (trimPlaces (Decimal.fixed 4 x).toList)

/-- A truth value. -/
def boolean (b : Bool) : String := if b then "true" else "false"

/-- Items between the braces of a literal; without items the braces touch. -/
def braced (opening : String) (items : List String) : String :=
  if items.isEmpty then opening ++ "\x7b\x7d"
  else opening ++ "\x7b " ++ ", ".intercalate items ++ " \x7d"

/-- A slice of items that are written already. -/
def sliceOf (items : List String) : String := braced "&." items

/-- A field on one line, its value written already. -/
def fieldText (name value : String) : String := "." ++ name ++ " = " ++ value

namespace Literal

mutual

/-- The text of a value. -/
def text : Literal → String
  | null => "null"
  | boolean b => Zig.boolean b
  | integer n => toString n
  | number x => float x
  | string s => quoted s
  | member scope word => scope ++ "." ++ word
  | record fields => braced "." (fieldTexts fields)
  | tuple items => braced "." (texts items)
  | slice items => sliceOf (texts items)

/-- The texts of values. -/
def texts : List Literal → List String
  | [] => []
  | v :: vs => v.text :: texts vs

/-- The texts of fields. -/
def fieldTexts : List (String × Literal) → List String
  | [] => []
  | (name, v) :: fs => fieldText name v.text :: fieldTexts fs

end

theorem texts_eq_map (vs : List Literal) : texts vs = vs.map text := by
  induction vs with
  | nil => rfl
  | cons v vs ih => rw [texts, ih, List.map_cons]

theorem fieldTexts_eq_map (fs : List (String × Literal)) :
    fieldTexts fs = fs.map fun f => fieldText f.1 f.2.text := by
  induction fs with
  | nil => rfl
  | cons f fs ih => rw [fieldTexts, ih, List.map_cons]

/-- A value that may be absent. -/
def orNull {α : Type} (f : α → Literal) : Option α → Literal
  | some a => f a
  | none => null

/-- A slice of quoted strings. -/
def strings (values : List String) : Literal := slice (values.map string)

end Literal

end CombatContent.Zig
