import CombatContent.Text.Lines
import CombatContent.Zig.Literal

/-!
# Zig tables

A table is a declaration of types and an array of rows. A row is a record on several lines: its
entries are fields on one line, and nested records and slices on several.

## Main definitions

* `Entry`, `Row`, `Table`: tables as data.
* `Row.value?`: the value of a field on one line.
* `Table.text`: the text of a table.
-/

namespace CombatContent.Zig

/-- An entry of a record or a slice that stands on several lines. -/
inductive Entry where
  | field (name : String) (value : Literal)
  | item (value : Literal)
  | record (name : String) (entries : List Entry)
  | slice (name : String) (entries : List Entry)
  | row (entries : List Entry)
  deriving Inhabited

/-- The entries of a record that stands on several lines. -/
abbrev Row := List Entry

/-- The value of the field of that name that stands on one line. -/
def Row.value? (r : Row) (name : String) : Option Literal :=
  r.findSome? fun
    | .field n v => if n = name then some v else none
    | _ => none

/-- The entries under that name that stand on several lines. -/
def Row.entries? (r : Row) (name : String) : Option (List Entry) :=
  r.findSome? fun
    | .record n es => if n = name then some es else none
    | .slice n es => if n = name then some es else none
    | _ => none

/-- A field that is written only if it has a value. -/
def givenField {α : Type} (name : String) (f : α → Literal) : Option α → List Entry
  | some a => [.field name (f a)]
  | none => []

/-- The fields that have a value, in order. -/
def givenFields {α : Type} (f : α → Literal) (fields : List (String × Option α)) : List Entry :=
  fields.flatMap fun field => givenField field.1 f field.2

/-- A line at a depth, four blanks for each step. -/
def indented (depth : Nat) (line : String) : String :=
  "".pushn ' ' (4 * depth) ++ line

mutual

/-- The lines of an entry at a depth. -/
def Entry.lines (depth : Nat) : Entry → List String
  | .field name value => [indented depth (fieldText name value.text ++ ",")]
  | .item value => [indented depth (value.text ++ ",")]
  | .record name entries =>
    indented depth (fieldText name ".\x7b") ::
      (entryLines (depth + 1) entries ++ [indented depth "\x7d,"])
  | .slice name entries =>
    indented depth (fieldText name "&.\x7b") ::
      (entryLines (depth + 1) entries ++ [indented depth "\x7d,"])
  | .row entries =>
    indented depth ".\x7b" :: (entryLines (depth + 1) entries ++ [indented depth "\x7d,"])

/-- The lines of entries at a depth. -/
def entryLines (depth : Nat) : List Entry → List String
  | [] => []
  | e :: es => e.lines depth ++ entryLines depth es

end

theorem entryLines_eq_flatMap (depth : Nat) (es : List Entry) :
    entryLines depth es = es.flatMap (Entry.lines depth) := by
  induction es with
  | nil => rfl
  | cons e es ih => rw [entryLines, ih, List.flatMap_cons]

/-- A table: the declaration of its types, its name, the type of its rows, and the rows. -/
structure Table where
  declaration : List String
  name : String
  rowType : String
  rows : List Row

/-- The lines of a table. -/
def Table.lines (t : Table) : List String :=
  t.declaration ++
    "" :: ("pub const " ++ t.name ++ " = [_]" ++ t.rowType ++ "\x7b") ::
      (entryLines 1 (t.rows.map Entry.row) ++ ["\x7d;"])

/-- The text of a table. -/
def Table.text (t : Table) : String := Text.unlines t.lines

end CombatContent.Zig
