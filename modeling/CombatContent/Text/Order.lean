/-!
# Order of names

Names are ordered by code points. Things that carry a name are sorted by it, and things of one
name keep the order in which they came.

## Main statements

* `perm_sortedBy`: sorting loses nothing and adds nothing.
* `pairwise_sortedBy`: the sorted names do not descend.
* `sublist_sortedBy`: what was in order stays in order.
-/

namespace CombatContent

variable {α : Type} (name : α → String)

/-- Things sorted by name; those of one name keep their order. -/
def sortedBy (xs : List α) : List α :=
  xs.mergeSort fun a b => decide (name a ≤ name b)

/-- Sorting loses nothing and adds nothing. -/
theorem perm_sortedBy (xs : List α) : (sortedBy name xs).Perm xs :=
  List.mergeSort_perm xs _

private theorem trans_name (a b c : α) (hab : decide (name a ≤ name b) = true)
    (hbc : decide (name b ≤ name c) = true) : decide (name a ≤ name c) = true := by
  simp only [decide_eq_true_eq] at *
  exact String.le_trans hab hbc

private theorem total_name (a b : α) :
    (decide (name a ≤ name b) || decide (name b ≤ name a)) = true := by
  simpa using String.le_total (name a) (name b)

/-- The sorted names do not descend. -/
theorem pairwise_sortedBy (xs : List α) :
    (sortedBy name xs).Pairwise fun a b => name a ≤ name b := by
  have h := List.pairwise_mergeSort (trans_name name) (total_name name) xs
  exact h.imp fun h => by simpa using h

/-- What was in order stays in order. -/
theorem sublist_sortedBy {xs ys : List α} (h : ys.Pairwise fun a b => name a ≤ name b)
    (hs : ys.Sublist xs) : ys.Sublist (sortedBy name xs) :=
  List.sublist_mergeSort (trans_name name) (total_name name) (h.imp fun h => by simpa using h) hs

theorem mem_sortedBy {xs : List α} {a : α} : a ∈ sortedBy name xs ↔ a ∈ xs :=
  (perm_sortedBy name xs).mem_iff

end CombatContent
