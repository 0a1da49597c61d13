import CombatContent.Dataset
import CombatContent.Decimal.Shortest

/-!
# Audit entries

The audit of one record: the fields that matter, the ids that it uses from elsewhere, and the
findings. A record is clean without warnings and errors.

## Main definitions

* `FieldValue`: what a field showed, and its text.
* `Entry`: the audit of one record.
* `Entry.blank`, `Entry.withFields`, `Entry.referAll`, `Entry.warnAll`, `Entry.errorAll`: how an
  entry is made.
* `Entry.number`, `Entry.text?`, `Entry.list`: fields looked up by name.

## Main statements

* `Entry.withFields_eq` and its like for the other three: what is added comes last, in order.
-/

namespace CombatContent.Audit

/-- What a field of a record showed. -/
inductive FieldValue where
  | text (value : String)
  | number (value : Float)
  | count (value : Nat)
  | list (items : List String)

/-- How a field is shown. -/
def FieldValue.display : FieldValue → String
  | .text s => s
  | .number x => Decimal.text x
  | .count n => toString n
  | .list items => "[" ++ ", ".intercalate items ++ "]"

/-- What an id is supposed to name. Materials of tissue layers are declared nowhere. -/
inductive Target where
  | record (dataset : Dataset)
  | tissueMaterial
  deriving DecidableEq, Repr

/-- An id that a record uses. -/
structure Reference where
  target : Target
  id : String
  deriving DecidableEq, Repr

/-- The audit of one record. -/
structure Entry where
  dataset : Dataset
  id : String
  /-- The fields by name, in display order. -/
  fields : List (String × FieldValue) := []
  references : List Reference := []
  warnings : List String := []
  errors : List String := []

namespace Entry

/-- The entry of a record of which nothing is said yet. -/
def blank (dataset : Dataset) (id : String) : Entry where
  dataset := dataset
  id := id

/-- Adds a field at the end. -/
def withField (e : Entry) (name : String) (value : FieldValue) : Entry :=
  { e with fields := e.fields ++ [(name, value)] }

/-- Adds a warning. -/
def warn (e : Entry) (message : String) : Entry :=
  { e with warnings := e.warnings ++ [message] }

/-- Adds an error. -/
def error (e : Entry) (message : String) : Entry :=
  { e with errors := e.errors ++ [message] }

/-- Adds an id that the record uses. -/
def refer (e : Entry) (target : Target) (id : String) : Entry :=
  { e with references := e.references ++ [⟨target, id⟩] }

/-- Adds fields, one after the other. -/
def withFields (e : Entry) (fields : List (String × FieldValue)) : Entry :=
  fields.foldl (fun e f => e.withField f.1 f.2) e

/-- Adds warnings, one after the other. -/
def warnAll (e : Entry) (messages : List String) : Entry := messages.foldl warn e

/-- Adds errors, one after the other. -/
def errorAll (e : Entry) (messages : List String) : Entry := messages.foldl error e

/-- Adds ids that name the same kind of thing, one after the other. -/
def referAll (e : Entry) (target : Target) (ids : List String) : Entry :=
  ids.foldl (fun e id => e.refer target id) e

/-- Items that are put at the end of a list one after the other come last in it, in order. -/
theorem foldl_append_eq {α β : Type} (get : Entry → List β) (set : Entry → List β → Entry)
    (hget : ∀ e xs, get (set e xs) = xs) (hset : ∀ e xs ys, set (set e xs) ys = set e ys)
    (hself : ∀ e, set e (get e) = e) (item : α → β) (e : Entry) (xs : List α) :
    xs.foldl (fun e x => set e (get e ++ [item x])) e = set e (get e ++ xs.map item) := by
  induction xs generalizing e with
  | nil => rw [List.map_nil, List.append_nil, hself, List.foldl_nil]
  | cons x xs ih =>
    rw [List.foldl_cons, ih, hget, hset, List.map_cons, List.append_assoc, List.singleton_append]

theorem withFields_eq (e : Entry) (added : List (String × FieldValue)) :
    e.withFields added = { e with fields := e.fields ++ added } := by
  have h := foldl_append_eq fields (fun e xs => { e with fields := xs }) (fun _ _ => rfl)
    (fun _ _ _ => rfl) (fun _ => rfl) (fun f => f) e added
  rwa [List.map_id'] at h

theorem warnAll_eq (e : Entry) (messages : List String) :
    e.warnAll messages = { e with warnings := e.warnings ++ messages } := by
  have h := foldl_append_eq warnings (fun e xs => { e with warnings := xs }) (fun _ _ => rfl)
    (fun _ _ _ => rfl) (fun _ => rfl) (fun message => message) e messages
  rwa [List.map_id'] at h

theorem errorAll_eq (e : Entry) (messages : List String) :
    e.errorAll messages = { e with errors := e.errors ++ messages } := by
  have h := foldl_append_eq errors (fun e xs => { e with errors := xs }) (fun _ _ => rfl)
    (fun _ _ _ => rfl) (fun _ => rfl) (fun message => message) e messages
  rwa [List.map_id'] at h

theorem referAll_eq (e : Entry) (target : Target) (ids : List String) :
    e.referAll target ids =
      { e with references := e.references ++ ids.map fun id => ⟨target, id⟩ } :=
  foldl_append_eq references (fun e xs => { e with references := xs }) (fun _ _ => rfl)
    (fun _ _ _ => rfl) (fun _ => rfl) (fun id => ⟨target, id⟩) e ids

/-- Whether there is an error. -/
def hasErrors (e : Entry) : Bool := !e.errors.isEmpty

/-- Whether there is a warning. -/
def hasWarnings (e : Entry) : Bool := !e.warnings.isEmpty

/-- Whether there is neither error nor warning. -/
def isClean (e : Entry) : Bool := !e.hasErrors && !e.hasWarnings

/-- The first field of that name. -/
def field? (e : Entry) (name : String) : Option FieldValue :=
  (e.fields.find? fun f => f.1 == name).map (·.2)

/-- The number in a field, a count being a number too; zero if there is none. -/
def number (e : Entry) (name : String) : Float :=
  match e.field? name with
  | some (.number x) => x
  | some (.count n) => Float.ofNat n
  | _ => 0.0

/-- The text in a field, unless it is empty. -/
def text? (e : Entry) (name : String) : Option String :=
  match e.field? name with
  | some (.text s) => if s.isEmpty then none else some s
  | _ => none

/-- The list in a field; empty if there is none. -/
def list (e : Entry) (name : String) : List String :=
  match e.field? name with
  | some (.list items) => items
  | _ => []

end Entry

end CombatContent.Audit
