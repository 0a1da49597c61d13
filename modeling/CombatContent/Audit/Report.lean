import CombatContent.Audit.Entry
import CombatContent.NameSet

/-!
# Audit reports

A report gathers entries in the order in which they come. It keeps track of the ids that are
declared in each dataset and of the materials that tissue layers name. An id that comes again in
its dataset is an error of the later entry.

## Main definitions

* `Report.add`: takes an entry in.
* `Report.resolve`: reports every reference to a record that no entry declares.
* `Report.status`: the verdict.
* `Report.summary`: counts for each dataset with entries, in display order.
-/

namespace CombatContent.Audit

/-- The verdict on a report. -/
inductive Status where
  | passed
  | passedWithWarnings
  | failed
  deriving DecidableEq, Repr

/-- The word for a verdict. -/
def Status.word : Status → String
  | .passed => "PASSED"
  | .passedWithWarnings => "PASSED_WITH_WARNINGS"
  | .failed => "FAILED"

/-- The counts of one dataset. -/
structure SummaryRow where
  dataset : Dataset
  total : Nat
  withWarnings : Nat
  withErrors : Nat
  deriving DecidableEq, Repr

/-- Counts an entry in a row. -/
def SummaryRow.count (r : SummaryRow) (e : Entry) : SummaryRow :=
  ⟨r.dataset, r.total + 1, r.withWarnings + e.hasWarnings.toNat, r.withErrors + e.hasErrors.toNat⟩

/-- Counts an entry in the row of its dataset, or in a new row in display order. -/
def tally (e : Entry) : List SummaryRow → List SummaryRow
  | [] => [SummaryRow.count ⟨e.dataset, 0, 0, 0⟩ e]
  | r :: rs =>
    if r.dataset = e.dataset then r.count e :: rs
    else if e.dataset.position < r.dataset.position then
      SummaryRow.count ⟨e.dataset, 0, 0, 0⟩ e :: r :: rs
    else r :: tally e rs

/-- The diagnostics of a run. -/
structure Report where
  entries : List Entry
  crossReferenceErrors : List String
  /-- The ids of the entries by dataset, each once. -/
  declared : List (Dataset × String)
  tissueMaterials : NameSet

namespace Report

/-- The report without entries. -/
def empty : Report := ⟨[], [], [], .empty⟩

/-- Whether some entry of the dataset has the id. -/
def declares (r : Report) (dataset : Dataset) (id : String) : Bool :=
  r.declared.contains (dataset, id)

/-- What is reported of an id that comes again. -/
def duplicateMessage (dataset : Dataset) (id : String) : String :=
  "duplicate id '" ++ id ++ "' in " ++ dataset.key

/-- An entry as the report stores it. -/
def stored (r : Report) (e : Entry) : Entry :=
  if r.declares e.dataset e.id then e.error (duplicateMessage e.dataset e.id) else e

/-- The materials of tissue layers that an entry names. -/
def tissueMaterialsOf (e : Entry) : List String :=
  (e.references.filter fun ref => ref.target = .tissueMaterial).map Reference.id

/-- Takes an entry in. -/
def add (r : Report) (e : Entry) : Report where
  entries := r.entries ++ [r.stored e]
  crossReferenceErrors := r.crossReferenceErrors
  declared := if r.declares e.dataset e.id then r.declared else (e.dataset, e.id) :: r.declared
  tissueMaterials := (tissueMaterialsOf e).foldl NameSet.insert r.tissueMaterials

/-- Takes entries in, one after the other. -/
def addAll (r : Report) (es : List Entry) : Report := es.foldl add r

/-- Takes in an error about references. -/
def addCrossReferenceError (r : Report) (message : String) : Report :=
  { r with crossReferenceErrors := r.crossReferenceErrors ++ [message] }

/-- What is reported of a reference to a record that is declared nowhere. -/
def unknownMessage (e : Entry) (target : Dataset) (id : String) : String :=
  e.dataset.label ++ " '" ++ e.id ++ "' references unknown " ++ target.noun ++ " '" ++ id ++ "'"

/-- What is reported of one reference, if anything. -/
def unresolved? (r : Report) (e : Entry) (ref : Reference) : Option String :=
  match ref.target with
  | .record target =>
    if r.declares target ref.id then none else some (unknownMessage e target ref.id)
  | .tissueMaterial => none

/-- What is reported of the references of all entries, in order. -/
def unresolved (r : Report) : List String :=
  r.entries.flatMap fun e => e.references.filterMap (r.unresolved? e)

/-- Reports every reference to a record that no entry declares. -/
def resolve (r : Report) : Report :=
  r.unresolved.foldl addCrossReferenceError r

/-- The entries of one dataset. -/
def entriesOf (r : Report) (dataset : Dataset) : List Entry :=
  r.entries.filter fun e => e.dataset = dataset

/-- How many entries have errors, and how many references are in error, together. -/
def errorCount (r : Report) : Nat :=
  r.entries.countP Entry.hasErrors + r.crossReferenceErrors.length

/-- How many entries have warnings. -/
def warningCount (r : Report) : Nat :=
  r.entries.countP Entry.hasWarnings

/-- Whether anything is in error. -/
def hasErrors (r : Report) : Bool := 0 < r.errorCount

/-- The verdict. -/
def status (r : Report) : Status :=
  if r.hasErrors then .failed
  else if 0 < r.warningCount then .passedWithWarnings
  else .passed

/-- The counts for each dataset with entries, in display order. -/
def summary (r : Report) : List SummaryRow :=
  r.entries.foldl (fun rows e => tally e rows) []

end Report

end CombatContent.Audit
