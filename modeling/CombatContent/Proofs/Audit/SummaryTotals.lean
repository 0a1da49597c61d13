import CombatContent.Proofs.Audit.Calls
import CombatContent.Proofs.Audit.Interleaving
import Mathlib.Algebra.BigOperators.Group.List.Basic
import Mathlib.Algebra.GroupWithZero.Nat

/-!
# What a summary adds up to

The rows of a summary share the entries of a report out among the datasets: every entry is counted
in one row, and what is counted of it there is also counted by the report as a whole. So the columns
of a summary add up to the counts of the report. In terms of the entries that came, an entry is
counted as one with errors if it came so, or if its id had come before in its dataset.

## Main definitions

* `Report.IsSummary`: the rows that a report is summarised by.
* `FailsAt`: an entry that came and is stored in error.

## Main results

* `Report.sum_summary`: a column of a summary.
* `Report.Tracks.countP_hasErrors`: the entries that are stored in error.
* `Report.summary_afterCalls`: the summary of a report after any calls.
-/

namespace CombatContent.Audit

/-- Of the entries that came, the one at a place is stored in error: it came so, or an earlier one
had its dataset and id. -/
def FailsAt (came : List Entry) (e : Entry) (place : Nat) : Prop :=
  e.hasErrors = true ∨ e.key ∈ (came.take place).map Entry.key

instance (came : List Entry) (e : Entry) (place : Nat) : Decidable (FailsAt came e place) :=
  inferInstanceAs (Decidable (_ ∨ _))

namespace Report

/-- Rows that summarise a report: one for each dataset with entries, in display order, each with the
counts of the entries of its dataset. -/
structure IsSummary (r : Report) (rows : List SummaryRow) : Prop where
  hasRow_iff : ∀ d, (∃ row ∈ rows, row.dataset = d) ↔ ∃ e ∈ r.entries, e.dataset = d
  ascending : rows.Pairwise fun row row' => row.dataset.position < row'.dataset.position
  total : ∀ row ∈ rows, row.total = r.entries.countP fun e => e.dataset = row.dataset
  withWarnings : ∀ row ∈ rows,
    row.withWarnings = r.entries.countP fun e => e.dataset = row.dataset ∧ e.warnings ≠ []
  withErrors : ∀ row ∈ rows,
    row.withErrors = r.entries.countP fun e => e.dataset = row.dataset ∧ e.errors ≠ []

variable {r : Report} {came : List Entry}

/-! ### Rows -/

theorem mem_summary {row : SummaryRow} :
    row ∈ r.summary ↔ ∃ d, r.entriesOf d ≠ [] ∧ rowOf r.entries d = row := by
  rw [summary_eq, List.mem_map]
  simp only [datasetsOf, List.mem_filter, decide_eq_true_eq, mem_map_dataset_iff, Dataset.mem_all,
    true_and]

/-- What is counted of the entries of a dataset is counted of all entries that are of it. -/
theorem countP_entriesOf (d : Dataset) (p : Entry → Bool) (q : Entry → Prop) [DecidablePred q]
    (hpq : ∀ e, p e = true ↔ q e) :
    (r.entriesOf d).countP p = r.entries.countP fun e => e.dataset = d ∧ q e := by
  rw [entriesOf, List.countP_filter]
  refine List.countP_congr fun e _ => ?_
  rw [Bool.and_eq_true, hpq, decide_eq_true_eq, decide_eq_true_eq, and_comm]

theorem isSummary_summary (r : Report) : r.IsSummary r.summary where
  hasRow_iff d := by
    simp only [mem_summary, ← mem_map_dataset_iff, List.mem_map]
    constructor
    · rintro ⟨_, ⟨d, hd, rfl⟩, rfl⟩
      exact hd
    · exact fun hd => ⟨_, ⟨d, hd, rfl⟩, rfl⟩
  ascending := by
    rw [summary_eq, List.pairwise_map]
    exact pairwise_position_all.filter _
  total row hrow := by
    obtain ⟨d, -, rfl⟩ := mem_summary.mp hrow
    exact List.countP_eq_length_filter.symm
  withWarnings row hrow := by
    obtain ⟨d, -, rfl⟩ := mem_summary.mp hrow
    exact countP_entriesOf d _ _ fun _ => Entry.hasWarnings_iff
  withErrors row hrow := by
    obtain ⟨d, -, rfl⟩ := mem_summary.mp hrow
    exact countP_entriesOf d _ _ fun _ => Entry.hasErrors_iff

/-! ### Columns -/

/-- Leaving datasets out that nothing is counted of changes no sum. -/
theorem sum_map_datasetsOf {es : List Entry} {count : Dataset → Nat}
    (hcount : ∀ d, d ∉ es.map Entry.dataset → count d = 0) (ds : List Dataset) :
    ((datasetsOf es ds).map count).sum = (ds.map count).sum := by
  induction ds with
  | nil => rfl
  | cons d ds ih =>
    by_cases hd : d ∈ es.map Entry.dataset
    · rw [datasetsOf_cons_of_mem hd, List.map_cons, List.sum_cons, ih, List.map_cons, List.sum_cons]
    · rw [datasetsOf_cons_of_notMem hd, ih, List.map_cons, List.sum_cons, hcount d hd, Nat.zero_add]

/-- A column of a summary adds up to what it counts, counted of all entries. -/
theorem sum_summary {column : SummaryRow → Nat} {p : Entry → Bool}
    (hcolumn : ∀ d, column (rowOf r.entries d) = (r.entriesOf d).countP p) :
    (r.summary.map column).sum = r.entries.countP p := by
  have hcounts : column ∘ rowOf r.entries = fun d => (r.entriesOf d).countP p := funext hcolumn
  have hnone (d : Dataset) (hd : d ∉ r.entries.map Entry.dataset) :
      (r.entriesOf d).countP p = 0 := by
    rw [mem_map_dataset_iff, not_not] at hd
    rw [hd, List.countP_nil]
  calc (r.summary.map column).sum
      = ((datasetsOf r.entries Dataset.all).map fun d => (r.entriesOf d).countP p).sum := by
        rw [summary_eq, List.map_map, hcounts]
    _ = (Dataset.all.map fun d => (r.entriesOf d).countP p).sum := sum_map_datasetsOf hnone _
    _ = (Dataset.all.flatMap r.entriesOf).countP p := List.countP_flatMap.symm
    _ = r.entries.countP p := r.entries_perm.countP_eq p

/-! ### Entries that came -/

theorem Tracks.map_key_entries (h : r.Tracks came) :
    r.entries.map Entry.key = came.map Entry.key := by
  refine List.ext_getElem? fun i => ?_
  rw [List.getElem?_map, List.getElem?_map, h.getElem?_entries, Option.map_map]
  congr 1
  funext e
  rw [Function.comp_apply]
  split <;> rfl

/-- The entries of a report that are in error are those that came at a place where they fail. -/
theorem Tracks.countP_hasErrors (h : r.Tracks came) (d : Dataset) :
    (r.entries.countP fun e => e.dataset = d ∧ e.errors ≠ []) =
      came.zipIdx.countP fun c => c.1.dataset = d ∧ FailsAt came c.1 c.2 := by
  have hentries : r.entries = came.zipIdx.map fun c =>
      if c.1.key ∈ (came.take c.2).map Entry.key then
        c.1.error ("duplicate id '" ++ c.1.id ++ "' in " ++ c.1.dataset.key)
      else c.1 := by
    refine List.ext_getElem? fun i => ?_
    rw [h.getElem?_entries, List.map_take, h.map_key_entries, List.getElem?_map,
      List.getElem?_zipIdx, Option.map_map, Nat.zero_add]
    simp only [List.map_take]
    rfl
  rw [hentries, List.countP_map]
  refine List.countP_congr fun c _ => ?_
  rw [Function.comp_apply, decide_eq_true_eq, decide_eq_true_eq]
  split
  · next hcame =>
    have hfails : FailsAt came c.1 c.2 := .inr hcame
    exact and_congr Iff.rfl (iff_of_true (Entry.hasErrors_iff.mp (Entry.hasErrors_error ..)) hfails)
  · next hcame => rw [← Entry.hasErrors_iff, FailsAt, or_iff_left hcame]

/-! ### Any calls -/

/-- After any calls the summary of a report has one row for each dataset with entries, in display
order, with the counts of its entries; no more entries have warnings, or errors, than there are; and
the columns add up to the counts of the report, the errors about references counting with those of
entries. An entry is counted as one with errors just if it came so or its id had come before in its
dataset. -/
theorem summary_afterCalls (calls : List Call) :
    let r := afterCalls calls
    let came := calls.filterMap Call.entry?
    r.IsSummary r.summary ∧
    (∀ row ∈ r.summary, row.withWarnings ≤ row.total ∧ row.withErrors ≤ row.total) ∧
    (r.summary.map SummaryRow.total).sum = r.entries.length ∧
    (r.summary.map SummaryRow.withWarnings).sum = r.warningCount ∧
    (r.summary.map SummaryRow.withErrors).sum + r.crossReferenceErrors.length = r.errorCount ∧
    ∀ row ∈ r.summary, row.withErrors =
      came.zipIdx.countP fun c => c.1.dataset = row.dataset ∧ FailsAt came c.1 c.2 := by
  intro r came
  have hrows : r.IsSummary r.summary := isSummary_summary r
  refine ⟨hrows, fun row hrow => ?_, ?_, ?_, ?_, fun row hrow => ?_⟩
  · rw [hrows.total row hrow, hrows.withWarnings row hrow, hrows.withErrors row hrow]
    constructor <;> exact List.countP_mono_left (by simp +contextual)
  · rw [← congrFun List.countP_true r.entries]
    exact sum_summary fun d => (congrFun List.countP_true (r.entriesOf d)).symm
  · exact sum_summary fun d => rfl
  · rw [errorCount, sum_summary fun d => rfl]
  · rw [hrows.withErrors row hrow]
    exact (tracks_afterCalls calls).countP_hasErrors row.dataset

end Report

end CombatContent.Audit
