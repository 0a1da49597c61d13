import CombatContent.Tree
import CombatContent.Typing.Fault

/-!
# Shapes of records

A record is described by its fields in declaration order and by the record that an empty map
stands for. It can be written as a map, whose members are read in document order and whose unknown
members are passed over, or as a list of its fields, whose missing tail keeps the values of the
empty record.

## Main definitions

* `Reader`: reads a typed value out of a tree, or says what is wrong with it.
* `Field`, `Shape`: a field, and a record as its fields.
* `Shape.readMap`, `Shape.readList`: the two written forms.
-/

namespace CombatContent.Typing

/-- Reads a typed value out of a tree. -/
abbrev Reader (α : Type) := Tree → Except Fault α

/-- The kind of a value, as faults name it. -/
def found : Tree → Found
  | .null => .null
  | .boolean value => .boolean value
  | .integer value => .integer value
  | .float value => .float value
  | .text value => .text value
  | .list _ => .sequence
  | .map _ => .map

/-- Refuses a value. -/
def refuse {α : Type} (wanted : Wanted) (t : Tree) : Except Fault α :=
  .error (.wrongKind (found t) wanted)

/-- Reads a text. -/
def text : Reader String
  | .text s => .ok s
  | t => refuse .text t

/-- Reads a truth value. -/
def boolean : Reader Bool
  | .boolean b => .ok b
  | t => refuse .boolean t

/-- Reads a number; an integer becomes the nearest double. -/
def number : Reader Float
  | .float x => .ok x
  | .integer n => .ok (Float.ofInt n)
  | t => refuse .number t

variable {α ρ : Type}

/-- Reads a value that may be null. -/
def optional (r : Reader α) : Reader (Option α)
  | .null => .ok none
  | t => (r t).map some

/-- Reads the elements of a list in order. -/
def sequence (r : Reader α) : Reader (List α)
  | .list items => items.mapM r
  | t => refuse .sequence t

/-- A field of a record: reading its value gives what to do to the record. -/
structure Field (ρ : Type) where
  name : String
  required : Bool
  read : Reader (ρ → ρ)

/-- A field that may be left out. -/
def field (name : String) (r : Reader α) (put : α → ρ → ρ) : Field ρ :=
  ⟨name, false, fun t => (r t).map put⟩

/-- A field that has to be given. -/
def requiredField (name : String) (r : Reader α) (put : α → ρ → ρ) : Field ρ :=
  ⟨name, true, fun t => (r t).map put⟩

/-- A record as its fields in declaration order; `start` is what an empty map stands for. -/
structure Shape (ρ : Type) where
  name : String
  fields : List (Field ρ)
  start : ρ

namespace Shape

variable (shape : Shape ρ)

/-- The field of that name. -/
def field? (name : String) : Option (Field ρ) :=
  shape.fields.find? fun f => f.name == name

/-- Reads one member into the record; a member that names no field changes nothing. -/
def readMember (r : ρ) (m : String × Tree) : Except Fault ρ :=
  match shape.field? m.1 with
  | none => .ok r
  | some f => (f.read m.2).map fun put => put r

/-- Reads the members of a map in document order. -/
def readMembers (ms : Members) : Except Fault ρ :=
  ms.foldlM shape.readMember shape.start

/-- The first field that has to be given and is not. -/
def missing? (ms : Members) : Option (Field ρ) :=
  shape.fields.find? fun f => f.required && !ms.has f.name

/-- Reads the record from a map. What is wrong with a member comes before what is missing. -/
def readMap (ms : Members) : Except Fault ρ :=
  match shape.readMembers ms with
  | .error e => .error e
  | .ok r =>
    match shape.missing? ms with
    | some f => .error (.missingMember f.name)
    | none => .ok r

/-- Reads elements into fields in order; `count` is the length of the whole list. -/
def readElements (count : Nat) : List (Field ρ) → List Tree → ρ → Except Fault ρ
  | [], [], r => .ok r
  | [], _ :: _, _ => .error (.tooManyElements count)
  | f :: fs, [], r =>
    if (f :: fs).any Field.required then
      .error (.tooFewElements count shape.name shape.fields.length)
    else .ok r
  | f :: fs, t :: ts, r =>
    match f.read t with
    | .error e => .error e
    | .ok put => readElements count fs ts (put r)

/-- Reads the record from the list of its fields. -/
def readList (items : List Tree) : Except Fault ρ :=
  shape.readElements items.length shape.fields items shape.start

/-- Reads the record from either written form. -/
def read : Reader ρ
  | .map ms => shape.readMap ms
  | .list items => shape.readList items
  | t => refuse (.record shape.name) t

end Shape

end CombatContent.Typing
