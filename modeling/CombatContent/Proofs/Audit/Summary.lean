import CombatContent.Proofs.Audit.ReportRun
import Mathlib.Data.List.Induction

/-!
# The summary of a report

The summary is tallied entry by entry: an entry is counted in the row of its dataset, and opens the
row if there is none. Whatever the order of the entries, the rows are those of the datasets with
entries, in display order, and each counts the entries of its dataset.

## Main definitions

* `rowOf`: the counts of one dataset among entries.

## Main results

* `tally_map_rowOf`: one more entry.
* `Report.summary_eq`: the rows of a summary.
-/

namespace CombatContent.Audit

variable {e : Entry} {es : List Entry} {d : Dataset} {ds : List Dataset}

/-- The counts of one dataset among entries. -/
def rowOf (es : List Entry) (d : Dataset) : SummaryRow :=
  let own := es.filter fun e => e.dataset = d
  ⟨d, own.length, own.countP Entry.hasWarnings, own.countP Entry.hasErrors⟩

/-- The datasets of a list that have entries. -/
def datasetsOf (es : List Entry) (ds : List Dataset) : List Dataset :=
  ds.filter fun d => d ∈ es.map Entry.dataset

@[simp]
theorem dataset_rowOf (es : List Entry) (d : Dataset) : (rowOf es d).dataset = d := rfl

theorem datasetsOf_cons_of_mem (h : d ∈ es.map Entry.dataset) :
    datasetsOf es (d :: ds) = d :: datasetsOf es ds :=
  List.filter_cons_of_pos (by simpa using h)

theorem datasetsOf_cons_of_notMem (h : d ∉ es.map Entry.dataset) :
    datasetsOf es (d :: ds) = datasetsOf es ds :=
  List.filter_cons_of_neg (by simpa using h)

theorem rowOf_of_notMem (h : d ∉ es.map Entry.dataset) : rowOf es d = ⟨d, 0, 0, 0⟩ := by
  have hown : es.filter (fun e => e.dataset = d) = [] := by
    rw [List.filter_eq_nil_iff]
    intro e he hd
    exact h (List.mem_map.mpr ⟨e, he, by simpa using hd⟩)
  rw [rowOf, hown]
  rfl

/-- An entry is counted in the row of its dataset. -/
theorem rowOf_concat_self (es : List Entry) (e : Entry) :
    rowOf (es ++ [e]) e.dataset = (rowOf es e.dataset).count e := by
  have hcount (p : Entry → Bool) : [e].countP p = (p e).toNat := by
    cases h : p e <;> simp [h]
  have hown : [e].filter (fun x => x.dataset = e.dataset) = [e] := by simp
  rw [rowOf, List.filter_append, hown, rowOf, SummaryRow.count]
  simp only [List.length_append, List.length_singleton, List.countP_append, hcount]

/-- An entry is not counted in the row of another dataset. -/
theorem rowOf_concat_of_ne (h : e.dataset ≠ d) : rowOf (es ++ [e]) d = rowOf es d := by
  have hother : [e].filter (fun x => x.dataset = d) = [] := by simp [h]
  rw [rowOf, List.filter_append, hother, List.append_nil, rowOf]

theorem map_rowOf_concat (h : e.dataset ∉ ds) : ds.map (rowOf (es ++ [e])) = ds.map (rowOf es) :=
  List.map_congr_left fun _ hd => rowOf_concat_of_ne fun heq => h (heq ▸ hd)

theorem datasetsOf_concat (h : e.dataset ∉ ds) : datasetsOf (es ++ [e]) ds = datasetsOf es ds := by
  refine List.filter_congr fun d hd => ?_
  have hne : d ≠ e.dataset := fun heq => h (heq ▸ hd)
  simp [hne]

/-- An entry opens a row in front of rows of later datasets. -/
theorem tally_of_lt {rows : List SummaryRow}
    (h : ∀ r ∈ rows, e.dataset.position < r.dataset.position) :
    tally e rows = SummaryRow.count ⟨e.dataset, 0, 0, 0⟩ e :: rows := by
  cases rows with
  | nil => rfl
  | cons r rows =>
    have hlt := h r (List.mem_cons_self ..)
    have hne : r.dataset ≠ e.dataset := fun heq => absurd hlt (by rw [heq]; omega)
    rw [tally, if_neg hne, if_pos hlt]

/-- Tallying one more entry gives the rows of the entries with it. -/
theorem tally_map_rowOf (es : List Entry) (hmem : e.dataset ∈ ds)
    (hds : ds.Pairwise fun d d' => d.position < d'.position) :
    tally e ((datasetsOf es ds).map (rowOf es)) =
      (datasetsOf (es ++ [e]) ds).map (rowOf (es ++ [e])) := by
  induction ds with
  | nil => exact absurd hmem List.not_mem_nil
  | cons d ds ih =>
    obtain ⟨hlt, hds⟩ := List.pairwise_cons.mp hds
    by_cases hd : e.dataset = d
    · subst hd
      have hrest : e.dataset ∉ ds := fun hmem => Nat.lt_irrefl _ (hlt _ hmem)
      have hkept : e.dataset ∉ datasetsOf es ds := mt List.mem_of_mem_filter hrest
      have hnow : e.dataset ∈ (es ++ [e]).map Entry.dataset := by simp
      rw [datasetsOf_cons_of_mem hnow, datasetsOf_concat hrest, List.map_cons,
        map_rowOf_concat hkept, rowOf_concat_self]
      by_cases hold : e.dataset ∈ es.map Entry.dataset
      · rw [datasetsOf_cons_of_mem hold, List.map_cons, tally, dataset_rowOf, if_pos rfl]
      · rw [datasetsOf_cons_of_notMem hold, rowOf_of_notMem hold]
        refine tally_of_lt fun r hr => ?_
        obtain ⟨d', hd', rfl⟩ := List.mem_map.mp hr
        exact hlt d' (List.mem_of_mem_filter hd')
    · have hmem : e.dataset ∈ ds := (List.mem_cons.mp hmem).resolve_left hd
      have hlater : d.position < e.dataset.position := hlt _ hmem
      have hsame : d ∈ (es ++ [e]).map Entry.dataset ↔ d ∈ es.map Entry.dataset := by
        simp [Ne.symm hd]
      by_cases hold : d ∈ es.map Entry.dataset
      · rw [datasetsOf_cons_of_mem hold, datasetsOf_cons_of_mem (hsame.mpr hold), List.map_cons,
          List.map_cons, tally, dataset_rowOf, if_neg (Ne.symm hd),
          if_neg (Nat.not_lt_of_gt hlater), ih hmem hds, rowOf_concat_of_ne hd]
      · rw [datasetsOf_cons_of_notMem hold, datasetsOf_cons_of_notMem (mt hsame.mp hold),
          ih hmem hds]

theorem pairwise_position_all : Dataset.all.Pairwise fun d d' => d.position < d'.position := by
  decide

/-- The summary has a row for each dataset with entries, in display order, and a row counts the
entries of its dataset. -/
theorem Report.summary_eq (r : Report) :
    r.summary = (datasetsOf r.entries Dataset.all).map (rowOf r.entries) := by
  rw [summary]
  induction r.entries using List.reverseRecOn with
  | nil => rfl
  | append_singleton es e ih =>
    rw [List.foldl_concat, ih]
    exact tally_map_rowOf es (Dataset.mem_all _) pairwise_position_all

end CombatContent.Audit
