import CombatContent.Proofs.PartOrder.Ancestry
import CombatContent.Zig.BodyPlanTable

/-!
# The order of parts in closed form

Parts are placed in rounds, and no round knows how deep a part is. Still the rounds place the parts
of the plan by depth: the parts that are ready are those of depth zero, and once they are placed
the depth of every part that waits is one less among those that wait. When no part is ready, no
part that is left has a depth at all, so that the rest is just the parts whose parents never end.

## Main definitions

* `PartOrder.Precedes`: the order of parts by depth and name.
* `PartOrder.Layered`: the parts of a plan in closed form.

## Main results

* `PartOrder.parentIn?_waiting`: what a round does to the plan.
* `PartOrder.layered_rounds`: the rounds place parts in that form.
* `PartOrder.order_eq_layers`: the order of the parts of a plan.
-/

namespace CombatContent.PartOrder

variable {α : Type} {parent : α → Option String} {plan : List (String × α)} {p q : String × α}

/-! ### One round -/

theorem isReady_iff : isReady parent plan p = true ↔ parentIn? parent plan p = none := by
  rw [isReady, parentIn?]
  cases parent p.2 with
  | none => simp
  | some name => simp [List.find?_eq_none]

theorem mem_ready : p ∈ ready parent plan ↔ p ∈ plan ∧ parentIn? parent plan p = none := by
  rw [ready, List.mem_filter, isReady_iff]

theorem mem_waiting : p ∈ waiting parent plan ↔ p ∈ plan ∧ parentIn? parent plan p ≠ none := by
  rw [waiting, List.mem_filter, Bool.not_eq_true', ← Bool.not_eq_true, isReady_iff]

theorem ascending_ready (h : Ascending plan) : Ascending (ready parent plan) :=
  List.Pairwise.filter _ h

theorem ascending_waiting (h : Ascending plan) : Ascending (waiting parent plan) :=
  List.Pairwise.filter _ h

/-- A round loses no part. -/
theorem ready_append_waiting_perm : (ready parent plan ++ waiting parent plan).Perm plan :=
  List.filter_append_perm _ plan

/-- Among the waiting parts, a parent counts only if it waits. -/
theorem parentIn?_waiting (h : Ascending plan) :
    parentIn? parent (waiting parent plan) p = some q ↔
      parentIn? parent plan p = some q ∧ q ∈ waiting parent plan := by
  rw [parentIn?_eq_some_iff (ascending_waiting h), parentIn?_eq_some_iff h, and_assoc]
  exact and_congr_right fun _ => (and_iff_right_of_imp fun hq => (mem_waiting.mp hq).1).symm

/-- For a waiting part, the chain of parents is a step shorter among the waiting parts. -/
theorem ancestor?_waiting_eq_none_iff (h : Ascending plan) (hp : p ∈ waiting parent plan) {n : ℕ} :
    ancestor? parent (waiting parent plan) n p = none ↔
      ancestor? parent plan (n + 1) p = none := by
  induction n generalizing p with
  | zero =>
    obtain ⟨q, hq⟩ := Option.ne_none_iff_exists'.mp (mem_waiting.mp hp).2
    simp [ancestor?, hq]
  | succ n ih =>
    obtain ⟨q, hq⟩ := Option.ne_none_iff_exists'.mp (mem_waiting.mp hp).2
    rw [ancestor?_succ_of_parent hq]
    by_cases hwait : q ∈ waiting parent plan
    · rw [ancestor?_succ_of_parent ((parentIn?_waiting h).mpr ⟨hq, hwait⟩), ih hwait]
    · -- The parent is placed in this round, so it is the first of the chain.
      have hroot : parentIn? parent (waiting parent plan) p = none := by
        rw [Option.eq_none_iff_forall_ne_some]
        intro x hx
        obtain ⟨hx, hxwait⟩ := (parentIn?_waiting h).mp hx
        rw [hq, Option.some.injEq] at hx
        exact hwait (hx ▸ hxwait)
      have hready : parentIn? parent plan q = none := by
        by_contra hne
        exact hwait (mem_waiting.mpr ⟨mem_of_parentIn? hq, hne⟩)
      exact iff_of_true (ancestor?_succ_of_root hroot) (ancestor?_succ_of_root hready)

theorem leaves_waiting_iff (h : Ascending plan) (hp : p ∈ waiting parent plan) :
    Leaves parent (waiting parent plan) p ↔ Leaves parent plan p := by
  constructor
  · rintro ⟨n, hn⟩
    exact ⟨n + 1, (ancestor?_waiting_eq_none_iff h hp).mp hn⟩
  · rintro ⟨n, hn⟩
    exact ⟨n, (ancestor?_waiting_eq_none_iff h hp).mpr (ancestor?_eq_none_mono hn (Nat.le_succ n))⟩

theorem hasDepth_waiting_iff (h : Ascending plan) (hp : p ∈ waiting parent plan) {n : ℕ} :
    HasDepth parent (waiting parent plan) p n ↔ HasDepth parent plan p (n + 1) := by
  rw [HasDepth, HasDepth, ancestor?_waiting_eq_none_iff h hp, ← Option.not_isNone,
    ← Option.not_isNone, Bool.not_eq_true', Bool.not_eq_true', ← Bool.not_eq_true,
    ← Bool.not_eq_true, Option.isNone_iff_eq_none, Option.isNone_iff_eq_none,
    ancestor?_waiting_eq_none_iff h hp]

/-! ### All rounds -/

/-- One part comes before another by depth, and by name among parts of one depth. -/
def Precedes (parent : α → Option String) (plan : List (String × α)) (p q : String × α) : Prop :=
  ∃ m n, HasDepth parent plan p m ∧ HasDepth parent plan q n ∧ (m < n ∨ m = n ∧ p.1 < q.1)

/-- The parts of a plan whose chains of parents leave it, by depth and name, and the rest of them,
by name. -/
structure Layered (parent : α → Option String) (plan placed rest : List (String × α)) : Prop where
  mem_placed : ∀ p, p ∈ placed ↔ p ∈ plan ∧ Leaves parent plan p
  mem_rest : ∀ p, p ∈ rest ↔ p ∈ plan ∧ ¬ Leaves parent plan p
  precedes_placed : placed.Pairwise (Precedes parent plan)
  ascending_rest : Ascending rest

/-- When no part is ready, every chain of parents goes on for ever. -/
theorem not_leaves_of_ready_eq_nil (h : ready parent plan = []) (hp : p ∈ plan) :
    ¬ Leaves parent plan p := by
  rintro ⟨n, hn⟩
  induction n generalizing p with
  | zero => exact Option.some_ne_none p hn
  | succ n ih =>
    cases hq : parentIn? parent plan p with
    | none => exact List.not_mem_nil (h ▸ mem_ready.mpr ⟨hp, hq⟩)
    | some q =>
      rw [ancestor?_succ_of_parent hq] at hn
      exact ih (mem_of_parentIn? hq) hn

/-- A round comes before the layers of the parts that it leaves. -/
theorem Layered.ready_append {placed rest : List (String × α)} (h : Ascending plan)
    (hl : Layered parent (waiting parent plan) placed rest) :
    Layered parent plan (ready parent plan ++ placed) rest where
  mem_placed p := by
    rw [List.mem_append, mem_ready, hl.mem_placed]
    constructor
    · rintro (⟨hp, hroot⟩ | ⟨hp, hleaves⟩)
      · exact ⟨hp, leaves_of_root hroot⟩
      · exact ⟨(mem_waiting.mp hp).1, (leaves_waiting_iff h hp).mp hleaves⟩
    · rintro ⟨hp, hleaves⟩
      by_cases hroot : parentIn? parent plan p = none
      · exact .inl ⟨hp, hroot⟩
      · have hwait := mem_waiting.mpr ⟨hp, hroot⟩
        exact .inr ⟨hwait, (leaves_waiting_iff h hwait).mpr hleaves⟩
  mem_rest p := by
    rw [hl.mem_rest]
    constructor
    · rintro ⟨hp, hleaves⟩
      exact ⟨(mem_waiting.mp hp).1, fun h' => hleaves ((leaves_waiting_iff h hp).mpr h')⟩
    · rintro ⟨hp, hleaves⟩
      have hwait := mem_waiting.mpr ⟨hp, fun hroot => hleaves (leaves_of_root hroot)⟩
      exact ⟨hwait, fun h' => hleaves ((leaves_waiting_iff h hwait).mp h')⟩
  precedes_placed := by
    have hzero {x : String × α} (hx : x ∈ ready parent plan) : HasDepth parent plan x 0 :=
      hasDepth_zero_iff.mpr (mem_ready.mp hx).2
    have hwait {x : String × α} (hx : x ∈ placed) : x ∈ waiting parent plan :=
      ((hl.mem_placed x).mp hx).1
    refine List.pairwise_append.mpr ⟨?_, ?_, fun x hx y hy => ?_⟩
    · exact (ascending_ready h).imp_of_mem fun hx hy hlt =>
        ⟨0, 0, hzero hx, hzero hy, .inr ⟨rfl, hlt⟩⟩
    · refine hl.precedes_placed.imp_of_mem fun hx hy => ?_
      rintro ⟨m, n, hm, hn, hlt⟩
      exact ⟨m + 1, n + 1, (hasDepth_waiting_iff h (hwait hx)).mp hm,
        (hasDepth_waiting_iff h (hwait hy)).mp hn,
        hlt.imp Nat.succ_lt_succ (And.imp_left (congrArg Nat.succ))⟩
    · obtain ⟨n, hn⟩ := leaves_iff_exists_hasDepth.mp ((hl.mem_placed y).mp hy).2
      exact ⟨0, n + 1, hzero hx, (hasDepth_waiting_iff h (hwait hy)).mp hn,
        .inl (Nat.succ_pos n)⟩
  ascending_rest := hl.ascending_rest

/-- The rounds place the parts of a plan by depth and name, and the rest by name. -/
theorem layered_rounds (parent : α → Option String) (h : Ascending plan) :
    ∃ placed rest, rounds parent plan = placed ++ rest ∧ Layered parent plan placed rest := by
  induction plan using rounds.induct parent with
  | case1 plan hready =>
    have hnot {p : String × α} (hp : p ∈ plan) := not_leaves_of_ready_eq_nil hready hp
    refine ⟨[], plan, by rw [rounds, dif_pos hready, List.nil_append], ?_, ?_, .nil, h⟩
    · exact fun p => iff_of_false List.not_mem_nil fun hp => hnot hp.1 hp.2
    · exact fun p => (and_iff_left_of_imp hnot).symm
  | case2 plan hready ih =>
    obtain ⟨placed, rest, heq, hl⟩ := ih (ascending_waiting h)
    refine ⟨ready parent plan ++ placed, rest, ?_, hl.ready_append h⟩
    rw [rounds, dif_neg hready, heq, List.append_assoc]

/-- The rounds lose no part and place none twice. -/
theorem perm_rounds : (rounds parent plan).Perm plan := by
  induction plan using rounds.induct parent with
  | case1 plan hready => rw [rounds, dif_pos hready]
  | case2 plan hready ih =>
    rw [rounds, dif_neg hready]
    exact (ih.append_left _).trans ready_append_waiting_perm

/-! ### The order of a plan -/

variable {parts : List (String × α)}

theorem order_perm : (order parent parts).Perm (lastByName parts) := perm_rounds

/-- The parts in order are the last declarations. -/
theorem mem_order : p ∈ order parent parts ↔ IsLast parts p := by
  rw [order_perm.mem_iff, mem_lastByName]

theorem nodup_names_order : ((order parent parts).map (·.1)).Nodup :=
  (order_perm.map _).nodup_iff.mpr (ascending_lastByName parts).nodup_names

/-- A part that precedes another has fewer ancestors, or as many and the smaller name. -/
theorem Precedes.ancestorCount (h : Precedes parent plan p q) :
    ancestorCount parent plan p < ancestorCount parent plan q ∨
      ancestorCount parent plan p = ancestorCount parent plan q ∧ p.1 < q.1 := by
  obtain ⟨m, n, hm, hn, hlt⟩ := h
  rwa [ancestorCount_eq hm, ancestorCount_eq hn]

/-- Of two members of a list whose order is known, the first stands before the second. -/
theorem pair_sublist_of_pairwise {xs : List α} {r : α → α → Prop} (h : xs.Pairwise r) {a b : α}
    (ha : a ∈ xs) (hb : b ∈ xs) (hne : a ≠ b) (hba : ¬ r b a) : [a, b].Sublist xs := by
  obtain ⟨before, after, rfl⟩ := List.append_of_mem hb
  have hmem : a ∈ before := by
    rcases List.mem_append.mp ha with ha | ha
    · exact ha
    · rcases List.mem_cons.mp ha with rfl | ha
      · exact absurd rfl hne
      · exact absurd ((List.pairwise_cons.mp (List.pairwise_append.mp h).2.1).1 a ha) hba
  exact (List.singleton_sublist.mpr hmem).append
    (List.singleton_sublist.mpr (List.mem_cons_self ..))

/-- An ancestor of a part whose chain of parents leaves the plan stands before the part. -/
theorem ancestor_before (hp : IsLast parts p) (hleaves : Leaves parent (lastByName parts) p)
    (hq : IsAncestor parent (lastByName parts) q p) : [q, p].Sublist (order parent parts) := by
  obtain ⟨placed, rest, heq, hl⟩ := layered_rounds parent (ascending_lastByName parts)
  obtain ⟨hqleaves, hlt⟩ := ancestorCount_lt hleaves hq
  have hpair : [q, p].Sublist placed := by
    refine pair_sublist_of_pairwise hl.precedes_placed ((hl.mem_placed q).mpr
      ⟨mem_of_isAncestor hq, hqleaves⟩) ((hl.mem_placed p).mpr
      ⟨mem_lastByName.mpr hp, hleaves⟩) (fun h => hlt.ne (by rw [h])) fun h => ?_
    rcases h.ancestorCount with h | h
    · exact hlt.asymm h
    · exact hlt.ne' h.1
  rw [order, heq]
  exact hpair.trans (List.sublist_append_left placed rest)

/-- The order of the parts of a plan: those whose chains of parents leave the plan, by the number
of their ancestors and by name, and then the others by name. Every part stands there once, after
all its ancestors if its chain leaves the plan, and only the last declarations matter. The parts of
a body plan are written in this order. -/
theorem order_eq_layers (parent : α → Option String) (parts : List (String × α)) :
    let plan := lastByName parts
    (∃ placed rest, order parent parts = placed ++ rest ∧
      (∀ p, p ∈ placed ↔ IsLast parts p ∧ Leaves parent plan p) ∧
      (∀ p, p ∈ rest ↔ IsLast parts p ∧ ¬ Leaves parent plan p) ∧
      (placed.Pairwise fun p q => ancestorCount parent plan p < ancestorCount parent plan q ∨
        ancestorCount parent plan p = ancestorCount parent plan q ∧ p.1 < q.1) ∧
      rest.Pairwise fun p q => p.1 < q.1) ∧
    (∀ p, p ∈ order parent parts ↔ IsLast parts p) ∧
    ((order parent parts).map (·.1)).Nodup ∧
    (∀ p q, IsLast parts p → Leaves parent plan p → IsAncestor parent plan q p →
      [q, p].Sublist (order parent parts)) ∧
    (∀ parts', (∀ p, IsLast parts' p ↔ IsLast parts p) →
      order parent parts' = order parent parts) ∧
    (∀ parts' : List (String × α), parts'.Perm parts → (parts.map (·.1)).Nodup →
      order parent parts' = order parent parts) ∧
    ∀ r : Record BodyPlan, (Zig.bodyPlanRow r).entries? "parts" =
      some ((order BodyPart.parent r.data.parts).map fun part =>
        .row (Zig.bodyPartRow part.1 part.2)) := by
  have hcongr (parts' : List (String × α)) (h : ∀ p, IsLast parts' p ↔ IsLast parts p) :
      order parent parts' = order parent parts := by
    rw [order, order, lastByName_congr h]
  refine ⟨?_, fun p => mem_order, nodup_names_order, fun p q => ancestor_before, hcongr, ?_, ?_⟩
  · obtain ⟨placed, rest, heq, hl⟩ := layered_rounds parent (ascending_lastByName parts)
    refine ⟨placed, rest, heq, fun p => ?_, fun p => ?_, ?_, hl.ascending_rest⟩
    · rw [hl.mem_placed, mem_lastByName]
    · rw [hl.mem_rest, mem_lastByName]
    · exact hl.precedes_placed.imp Precedes.ancestorCount
  · intro parts' hperm hnodup
    rw [order, order, lastByName_perm hperm.symm hnodup]
  · intro r
    rw [Zig.entries?_bodyPlanRow, Zig.orderedParts]

end CombatContent.PartOrder
