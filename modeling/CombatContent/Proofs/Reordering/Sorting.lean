import CombatContent.Text.Order
import Mathlib.Data.List.Forall2
import Mathlib.Data.List.Nodup
import Mathlib.Data.List.Perm.Basic
import Mathlib.Data.List.Sort
import Mathlib.Data.String.Basic

/-!
# Sorting in spite of the order

Things that are told apart by what they are sorted by are sorted in one way, in whatever order they
came, and related things that share it stay side by side.

## Main results

* `eq_of_perm_of_map_eq`: what tells things apart also tells their orders apart.
* `forall₂_sortedBy`: related things are sorted side by side, in whatever order they came.
-/

namespace CombatContent

variable {α β γ : Type} {xs ys ys' : List α}

/-- Related things of which the same is made. -/
theorem map_eq_map_of_forall₂ {R : α → β → Prop} {f : α → γ} {g : β → γ} {bs : List β}
    (hR : ∀ a b, R a b → f a = g b) (h : List.Forall₂ R xs bs) : xs.map f = bs.map g := by
  rw [← List.forall₂_eq_eq_eq, List.forall₂_map_left_iff, List.forall₂_map_right_iff]
  exact h.imp hR

/-- What is made of sorted things is sorted too, if it has their names. -/
theorem sortedBy_map {name : α → String} {name' : β → String} {f : α → β}
    (hf : ∀ a, name' (f a) = name a) (xs : List α) :
    sortedBy name' (xs.map f) = (sortedBy name xs).map f := by
  rw [sortedBy, sortedBy, List.map_mergeSort]
  intro a _ b _
  rw [hf, hf]

/-- Things that stand side by side are members of their lists. -/
theorem forall₂_mem {R : α → β → Prop} {bs : List β} (h : List.Forall₂ R xs bs) :
    List.Forall₂ (fun a b => R a b ∧ a ∈ xs ∧ b ∈ bs) xs bs :=
  List.forall₂_iff_zip.mpr ⟨h.length_eq, fun hmem =>
    ⟨(List.forall₂_iff_zip.mp h).2 hmem, List.of_mem_zip hmem⟩⟩

/-- Lists of the same things are equal if what tells the things apart is in the same order. -/
theorem eq_of_perm_of_map_eq (f : α → β) (hperm : xs.Perm ys) (hnodup : (xs.map f).Nodup)
    (hmap : xs.map f = ys.map f) : xs = ys := by
  induction xs generalizing ys with
  | nil => exact hperm.nil_eq
  | cons x xs ih =>
    cases ys with
    | nil => exact absurd hperm.length_eq (by simp)
    | cons y ys =>
      rw [List.map_cons, List.map_cons, List.cons.injEq] at hmap
      obtain rfl : x = y := List.inj_on_of_nodup_map hnodup (List.mem_cons_self ..)
        (hperm.mem_iff.mpr (List.mem_cons_self ..)) hmap.1
      rw [ih hperm.cons_inv (List.nodup_cons.mp hnodup).2 hmap.2]

/-- Related things of one name are sorted side by side, in whatever order they came, where names
are distinct. -/
theorem forall₂_sortedBy {R : α → α → Prop} {name : α → String}
    (hR : ∀ a b, R a b → name a = name b) (h : List.Forall₂ R xs ys) (hperm : ys.Perm ys')
    (hnodup : (xs.map name).Nodup) :
    List.Forall₂ R (sortedBy name xs) (sortedBy name ys') := by
  obtain ⟨zs, hzs, hzsperm⟩ := List.perm_comp_forall₂ (perm_sortedBy name xs) h
  have hnames : (sortedBy name xs).map name = zs.map name := map_eq_map_of_forall₂ hR hzs
  have hzs' : zs.Perm (sortedBy name ys') :=
    (hzsperm.trans hperm).trans (perm_sortedBy name ys').symm
  have hle (as : List α) : ((sortedBy name as).map name).Pairwise (· ≤ ·) :=
    List.pairwise_map.mpr (pairwise_sortedBy name as)
  have heq : zs.map name = (sortedBy name ys').map name :=
    (hzs'.map name).eq_of_pairwise' (hnames ▸ hle xs) (hle ys')
  have hnodup' : (zs.map name).Nodup :=
    hnames ▸ ((perm_sortedBy name xs).map name).nodup_iff.mpr hnodup
  rwa [← eq_of_perm_of_map_eq name hzs' hnodup' heq]

end CombatContent
