/-!
# Sets of names

A set of names is kept as the list of its names in ascending order, without repetition, so that
equal sets are equal lists and a set is written out in order.

## Main definitions

* `NameSet.insert`, `NameSet.ofList`: sets from names in any order.
* `NameSet.diff`: the names of one set that another lacks.

## Main statements

* `NameSet.mem_insert`, `NameSet.mem_ofList`, `NameSet.mem_diff`: what the sets hold.
* `NameSet.ext`: a set is determined by its names.
-/

namespace CombatContent

/-- A set of names in ascending order. -/
structure NameSet where
  toList : List String
  ascending : toList.Pairwise (· < ·)

namespace NameSet

instance : Membership String NameSet := ⟨fun s x => x ∈ s.toList⟩

theorem mem_def {s : NameSet} {x : String} : x ∈ s ↔ x ∈ s.toList := Iff.rfl

instance (x : String) (s : NameSet) : Decidable (x ∈ s) :=
  inferInstanceAs (Decidable (x ∈ s.toList))

instance : DecidableEq NameSet := fun a b =>
  if h : a.toList = b.toList then
    .isTrue (by cases a; cases b; simp_all)
  else
    .isFalse fun hab => h (hab ▸ rfl)

/-- The set without names. -/
def empty : NameSet := ⟨[], .nil⟩

/-- Whether a set has no names. -/
def isEmpty (s : NameSet) : Bool := s.toList.isEmpty

/-- How many names a set has. -/
def size (s : NameSet) : Nat := s.toList.length

/-- Puts a name in its place among ascending names. -/
def insertName (x : String) : List String → List String
  | [] => [x]
  | y :: ys =>
    if x = y then y :: ys else if x < y then x :: y :: ys else y :: insertName x ys

theorem mem_insertName {x z : String} {ys : List String} :
    z ∈ insertName x ys ↔ z = x ∨ z ∈ ys := by
  induction ys with
  | nil => simp [insertName]
  | cons y ys ih =>
    rw [insertName]
    split
    · simp_all
    · split
      · simp
      · simp only [List.mem_cons, ih]
        exact or_left_comm

theorem pairwise_insertName {x : String} {ys : List String} (h : ys.Pairwise (· < ·)) :
    (insertName x ys).Pairwise (· < ·) := by
  induction ys with
  | nil => simp [insertName]
  | cons y ys ih =>
    obtain ⟨hy, hys⟩ := List.pairwise_cons.mp h
    rw [insertName]
    split
    · exact h
    · next hne =>
      split
      · next hlt =>
        refine List.pairwise_cons.mpr ⟨fun z hz => ?_, h⟩
        rcases List.mem_cons.mp hz with rfl | hz
        · exact hlt
        · exact String.lt_trans hlt (hy z hz)
      · next hnlt =>
        refine List.pairwise_cons.mpr ⟨fun z hz => ?_, ih hys⟩
        rcases mem_insertName.mp hz with rfl | hz
        · refine String.not_le.mp fun hle => hne ?_
          exact String.le_antisymm hle (String.not_lt.mp hnlt)
        · exact hy z hz

/-- Adds a name. -/
def insert (s : NameSet) (x : String) : NameSet :=
  ⟨insertName x s.toList, pairwise_insertName s.ascending⟩

/-- The set of the names in a list. -/
def ofList (xs : List String) : NameSet :=
  xs.foldl insert empty

/-- The names of `s` that `t` lacks. -/
def diff (s t : NameSet) : NameSet :=
  ⟨s.toList.filter fun x => !decide (x ∈ t), s.ascending.filter _⟩

@[simp]
theorem mem_insert {s : NameSet} {x z : String} : z ∈ s.insert x ↔ z = x ∨ z ∈ s :=
  mem_insertName

theorem mem_foldl_insert {xs : List String} {s : NameSet} {z : String} :
    z ∈ xs.foldl insert s ↔ z ∈ s ∨ z ∈ xs := by
  induction xs generalizing s with
  | nil => simp
  | cons x xs ih =>
    rw [List.foldl_cons, ih, mem_insert, List.mem_cons]
    constructor
    · rintro ((rfl | h) | h) <;> simp [*]
    · rintro (h | rfl | h) <;> simp [*]

@[simp]
theorem mem_ofList {xs : List String} {z : String} : z ∈ ofList xs ↔ z ∈ xs := by
  rw [ofList, mem_foldl_insert]
  simp [mem_def, empty]

@[simp]
theorem mem_diff {s t : NameSet} {z : String} : z ∈ s.diff t ↔ z ∈ s ∧ z ∉ t := by
  simp [mem_def, diff]

theorem isEmpty_iff {s : NameSet} : s.isEmpty = true ↔ ∀ x, x ∉ s := by
  cases s with
  | mk l h =>
    cases l with
    | nil => simp [isEmpty, mem_def]
    | cons x l =>
      simp only [isEmpty, List.isEmpty_cons, Bool.false_eq_true, false_iff, mem_def]
      exact fun hall => hall x (List.mem_cons_self ..)

private theorem eq_of_ascending {a b : List String} (ha : a.Pairwise (· < ·))
    (hb : b.Pairwise (· < ·)) (h : ∀ x, x ∈ a ↔ x ∈ b) : a = b := by
  induction a generalizing b with
  | nil =>
    cases b with
    | nil => rfl
    | cons y ys => exact absurd ((h y).mpr (List.mem_cons_self ..)) (by simp)
  | cons x xs ih =>
    cases b with
    | nil => exact absurd ((h x).mp (List.mem_cons_self ..)) (by simp)
    | cons y ys =>
      obtain ⟨hx, hxs⟩ := List.pairwise_cons.mp ha
      obtain ⟨hy, hys⟩ := List.pairwise_cons.mp hb
      have hxy : x = y := by
        rcases List.mem_cons.mp ((h x).mp (List.mem_cons_self ..)) with hxy | hmem
        · exact hxy
        · rcases List.mem_cons.mp ((h y).mpr (List.mem_cons_self ..)) with hyx | hmem'
          · exact hyx.symm
          · exact absurd (String.lt_trans (hx y hmem') (hy x hmem)) (String.lt_irrefl x)
      subst hxy
      refine congrArg _ (ih hxs hys fun z => ?_)
      have hz := h z
      simp only [List.mem_cons] at hz
      constructor
      · intro hmem
        rcases hz.mp (.inr hmem) with rfl | hmem'
        · exact absurd (hx z hmem) (String.lt_irrefl z)
        · exact hmem'
      · intro hmem
        rcases hz.mpr (.inr hmem) with rfl | hmem'
        · exact absurd (hy z hmem) (String.lt_irrefl z)
        · exact hmem'

/-- A set is determined by its names. -/
@[ext]
theorem ext {s t : NameSet} (h : ∀ x, x ∈ s ↔ x ∈ t) : s = t := by
  have hl := eq_of_ascending s.ascending t.ascending h
  cases s
  cases t
  simp_all

end NameSet

end CombatContent
