import CombatContent.Proofs.PartOrder.Declarations
import Mathlib.Data.Set.Card

/-!
# Ancestors in a plan

The parent of a part in a plan is the part of the plan that it names as its parent, if there is
one. Following parents gives the chain of ancestors of a part. The chain ends when it leaves the
plan, and otherwise it runs into a cycle. A part whose chain ends after `n` ancestors has *depth*
`n`, and then these are all its ancestors, without repetition.

## Main definitions

* `PartOrder.parentIn?`, `PartOrder.ancestor?`: the chain of ancestors.
* `PartOrder.Leaves`: the chain ends.
* `PartOrder.IsAncestor`, `PartOrder.ancestorCount`.

## Main results

* `PartOrder.ancestorCount_eq`: the depth of a part is the number of its ancestors.
* `PartOrder.ancestorCount_lt`: an ancestor has fewer ancestors.
-/

namespace CombatContent.PartOrder

variable {α : Type} (parent : α → Option String) (plan : List (String × α))

/-- The part of the plan that a part names as its parent. -/
def parentIn? (p : String × α) : Option (String × α) :=
  (parent p.2).bind fun name => plan.find? fun q => q.1 == name

/-- The ancestor of a part that is a number of steps up the chain of its parents in the plan. -/
def ancestor? : ℕ → String × α → Option (String × α)
  | 0, p => some p
  | n + 1, p => (parentIn? parent plan p).bind (ancestor? n)

/-- The chain of parents of a part leaves the plan after finitely many steps. -/
def Leaves (p : String × α) : Prop := ∃ n, ancestor? parent plan n p = none

/-- One part of the plan is on the chain of parents of another. -/
def IsAncestor (q p : String × α) : Prop := ∃ n, ancestor? parent plan (n + 1) p = some q

/-- How many parts of the plan are ancestors of a part. -/
noncomputable def ancestorCount (p : String × α) : ℕ :=
  {q | IsAncestor parent plan q p}.ncard

/-- The chain of parents of a part leaves the plan after this many ancestors. -/
def HasDepth (p : String × α) (n : ℕ) : Prop :=
  (ancestor? parent plan n p).isSome = true ∧ ancestor? parent plan (n + 1) p = none

variable {parent plan} {p q : String × α} {n : ℕ}

/-! ### Parents -/

theorem parentIn?_eq_some_iff (h : Ascending plan) :
    parentIn? parent plan p = some q ↔ parent p.2 = some q.1 ∧ q ∈ plan := by
  rw [parentIn?, Option.bind_eq_some_iff]
  constructor
  · rintro ⟨name, hname, hfind⟩
    obtain rfl : q.1 = name := by simpa using List.find?_some hfind
    exact ⟨hname, List.mem_of_find?_eq_some hfind⟩
  · rintro ⟨hname, hq⟩
    refine ⟨q.1, hname, ?_⟩
    cases hfind : plan.find? fun x => x.1 == q.1 with
    | none => exact absurd (List.find?_eq_none.mp hfind q hq) (by simp)
    | some x =>
      have hx : x.1 = q.1 := by simpa using List.find?_some hfind
      rw [h.eq_of_name_eq (List.mem_of_find?_eq_some hfind) hq hx]

theorem mem_of_parentIn? (h : parentIn? parent plan p = some q) : q ∈ plan := by
  obtain ⟨name, -, hfind⟩ := Option.bind_eq_some_iff.mp h
  exact List.mem_of_find?_eq_some hfind

/-! ### Chains -/

theorem ancestor?_succ_of_parent (h : parentIn? parent plan p = some q) :
    ancestor? parent plan (n + 1) p = ancestor? parent plan n q := by
  rw [ancestor?, h, Option.bind_some]

theorem ancestor?_succ_of_root (h : parentIn? parent plan p = none) :
    ancestor? parent plan (n + 1) p = none := by
  rw [ancestor?, h, Option.bind_none]

/-- A chain that has ended does not go on. -/
theorem ancestor?_eq_none_mono {m : ℕ} (h : ancestor? parent plan n p = none) (hnm : n ≤ m) :
    ancestor? parent plan m p = none := by
  induction n generalizing p m with
  | zero => exact absurd h (Option.some_ne_none p)
  | succ n ih =>
    obtain ⟨m, rfl⟩ := Nat.exists_eq_add_of_lt hnm
    cases hp : parentIn? parent plan p with
    | none => exact ancestor?_succ_of_root hp
    | some q =>
      rw [ancestor?_succ_of_parent hp] at h ⊢
      exact ih h (by omega)

theorem leaves_of_root (h : parentIn? parent plan p = none) : Leaves parent plan p :=
  ⟨1, ancestor?_succ_of_root h⟩

/-! ### Depth -/

theorem hasDepth_zero_iff : HasDepth parent plan p 0 ↔ parentIn? parent plan p = none := by
  simp [HasDepth, ancestor?]

theorem hasDepth_succ_of_parent (h : parentIn? parent plan p = some q) :
    HasDepth parent plan p (n + 1) ↔ HasDepth parent plan q n := by
  rw [HasDepth, HasDepth, ancestor?_succ_of_parent h, ancestor?_succ_of_parent h]

/-- A part has a depth just if its chain leaves the plan. -/
theorem leaves_iff_exists_hasDepth : Leaves parent plan p ↔ ∃ n, HasDepth parent plan p n := by
  constructor
  · rintro ⟨n, hn⟩
    induction n generalizing p with
    | zero => exact absurd hn (Option.some_ne_none p)
    | succ n ih =>
      cases hp : parentIn? parent plan p with
      | none => exact ⟨0, hasDepth_zero_iff.mpr hp⟩
      | some q =>
        rw [ancestor?_succ_of_parent hp] at hn
        obtain ⟨k, hk⟩ := ih hn
        exact ⟨k + 1, (hasDepth_succ_of_parent hp).mpr hk⟩
  · rintro ⟨n, -, hn⟩
    exact ⟨n + 1, hn⟩

/-- The depth of a part is the depth of its parent and one more. -/
theorem HasDepth.eq_succ {m : ℕ} (hp : parentIn? parent plan p = some q)
    (h : HasDepth parent plan p m) : ∃ n, m = n + 1 ∧ HasDepth parent plan q n := by
  cases m with
  | zero => exact absurd (hasDepth_zero_iff.mp h) (by simp [hp])
  | succ n => exact ⟨n, rfl, (hasDepth_succ_of_parent hp).mp h⟩

theorem HasDepth.unique {m : ℕ} (h : HasDepth parent plan p n) (h' : HasDepth parent plan p m) :
    n = m := by
  induction n generalizing p m with
  | zero =>
    have hp := hasDepth_zero_iff.mp h
    cases m with
    | zero => rfl
    | succ m => simp [HasDepth, ancestor?_succ_of_root hp] at h'
  | succ n ih =>
    cases hp : parentIn? parent plan p with
    | none => simp [HasDepth, ancestor?_succ_of_root hp] at h
    | some q =>
      obtain ⟨k, rfl, hk⟩ := h'.eq_succ hp
      rw [ih ((hasDepth_succ_of_parent hp).mp h) hk]

/-! ### Ancestors -/

/-- The ancestors of a part are its parent and the ancestors of that. -/
theorem isAncestor_iff_of_parent (h : parentIn? parent plan p = some q) {x : String × α} :
    IsAncestor parent plan x p ↔ x = q ∨ IsAncestor parent plan x q := by
  constructor
  · rintro ⟨n, hn⟩
    rw [ancestor?_succ_of_parent h] at hn
    cases n with
    | zero => exact .inl (Option.some.inj hn).symm
    | succ n => exact .inr ⟨n, hn⟩
  · rintro (rfl | ⟨n, hn⟩)
    · exact ⟨0, ancestor?_succ_of_parent h⟩
    · exact ⟨n + 1, by rwa [ancestor?_succ_of_parent h]⟩

theorem not_isAncestor_of_root (h : parentIn? parent plan p = none) :
    ¬ IsAncestor parent plan q p := by
  rintro ⟨n, hn⟩
  rw [ancestor?_succ_of_root h] at hn
  exact Option.some_ne_none q hn.symm

theorem mem_of_isAncestor (h : IsAncestor parent plan q p) : q ∈ plan := by
  obtain ⟨n, hn⟩ := h
  induction n generalizing p with
  | zero =>
    cases hp : parentIn? parent plan p with
    | none => simp [ancestor?_succ_of_root hp] at hn
    | some x =>
      rw [ancestor?_succ_of_parent hp] at hn
      obtain rfl := Option.some.inj hn
      exact mem_of_parentIn? hp
  | succ n ih =>
    cases hp : parentIn? parent plan p with
    | none => simp [ancestor?_succ_of_root hp] at hn
    | some x =>
      rw [ancestor?_succ_of_parent hp] at hn
      exact ih hn

/-- An ancestor of a part of some depth has a smaller depth. -/
theorem HasDepth.exists_lt (h : HasDepth parent plan p n) (hq : IsAncestor parent plan q p) :
    ∃ m < n, HasDepth parent plan q m := by
  induction n generalizing p with
  | zero => exact absurd hq (not_isAncestor_of_root (hasDepth_zero_iff.mp h))
  | succ n ih =>
    cases hp : parentIn? parent plan p with
    | none => exact absurd hq (not_isAncestor_of_root hp)
    | some x =>
      have hx := (hasDepth_succ_of_parent hp).mp h
      rcases (isAncestor_iff_of_parent hp).mp hq with rfl | hq
      · exact ⟨n, Nat.lt_succ_self n, hx⟩
      · obtain ⟨m, hm, hqm⟩ := ih hx hq
        exact ⟨m, hm.trans (Nat.lt_succ_self n), hqm⟩

/-- The depth of a part is the number of its ancestors. -/
theorem ancestorCount_eq (h : HasDepth parent plan p n) : ancestorCount parent plan p = n := by
  have hfinite (x : String × α) : {q | IsAncestor parent plan q x}.Finite :=
    (List.finite_toSet plan).subset fun q hq => mem_of_isAncestor hq
  induction n generalizing p with
  | zero =>
    have hnone : {q | IsAncestor parent plan q p} = ∅ :=
      Set.eq_empty_of_forall_notMem fun q => not_isAncestor_of_root (hasDepth_zero_iff.mp h)
    rw [ancestorCount, hnone, Set.ncard_empty]
  | succ n ih =>
    cases hp : parentIn? parent plan p with
    | none => simp [HasDepth, ancestor?_succ_of_root hp] at h
    | some x =>
      have hx := (hasDepth_succ_of_parent hp).mp h
      -- The parent is not its own ancestor, for it would have a smaller depth than it has.
      have hnot : x ∉ {q | IsAncestor parent plan q x} := fun hxx => by
        obtain ⟨m, hm, hxm⟩ := hx.exists_lt hxx
        exact hm.ne (hxm.unique hx)
      have hinsert : {q | IsAncestor parent plan q p} =
          insert x {q | IsAncestor parent plan q x} :=
        Set.ext fun q => isAncestor_iff_of_parent hp
      rw [ancestorCount, hinsert, Set.ncard_insert_of_notMem hnot (hfinite x), ← ancestorCount,
        ih hx]

/-- An ancestor of a part whose chain leaves the plan has fewer ancestors, and its chain leaves the
plan as well. -/
theorem ancestorCount_lt (h : Leaves parent plan p) (hq : IsAncestor parent plan q p) :
    Leaves parent plan q ∧ ancestorCount parent plan q < ancestorCount parent plan p := by
  obtain ⟨n, hn⟩ := leaves_iff_exists_hasDepth.mp h
  obtain ⟨m, hm, hqm⟩ := hn.exists_lt hq
  refine ⟨leaves_iff_exists_hasDepth.mpr ⟨m, hqm⟩, ?_⟩
  rw [ancestorCount_eq hn, ancestorCount_eq hqm]
  exact hm

end CombatContent.PartOrder
