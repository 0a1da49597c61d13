import CombatContent.Proofs.Document.DistinctKeys
import CombatContent.Proofs.Reordering.Sorting

/-!
# Trees up to the order of members

Two trees are the same up to the order of members when one is the other with the members of any of
its maps permuted, at any depth. Elements of lists keep their places.

## Main definitions

* `Tree.Reordered`: one tree is another with members permuted.
* `Tree.MembersReordered`: the same for the members of a map.

## Main results

* `Tree.Reordered.rel_find?`: the members of one key are the same up to order.
* `Tree.Reordered.dropNulls`: removing null members keeps trees the same up to order.
-/

namespace CombatContent

namespace Tree

mutual

/-- One tree is another with the members of any of its maps permuted. -/
inductive Reordered : Tree → Tree → Prop
  | refl (t : Tree) : Reordered t t
  | list {ts us : List Tree} (h : List.Forall₂ Reordered ts us) : Reordered (.list ts) (.list us)
  | map {ms ns ns' : Members} (h : List.Forall₂ MemberReordered ms ns) (hperm : ns.Perm ns') :
      Reordered (.map ms) (.map ns')

/-- Members of one key whose values are the same up to order. -/
inductive MemberReordered : String × Tree → String × Tree → Prop
  | mk (key : String) {t u : Tree} (h : Reordered t u) : MemberReordered (key, t) (key, u)

end

/-- Members that are others permuted, each with its value up to order. -/
def MembersReordered (ms ns' : Members) : Prop :=
  ∃ ns : Members, List.Forall₂ MemberReordered ms ns ∧ ns.Perm ns'

variable {t u : Tree} {ts : List Tree} {ms ns ns' : Members} {m n : String × Tree} {key : String}

/-! ### Members -/

theorem memberReordered_iff : MemberReordered m n ↔ m.1 = n.1 ∧ m.2.Reordered n.2 := by
  constructor
  · rintro ⟨key, h⟩
    exact ⟨rfl, h⟩
  · obtain ⟨key, t⟩ := m
    rintro ⟨rfl, h⟩
    exact .mk _ h

theorem keys_eq_of_forall₂ (h : List.Forall₂ MemberReordered ms ns) : ms.keys = ns.keys :=
  map_eq_map_of_forall₂ (fun _ _ hm => (memberReordered_iff.mp hm).1) h

theorem rel_find?_of_forall₂ (h : List.Forall₂ MemberReordered ms ns) (key : String) :
    Option.Rel Reordered (ms.find? key) (ns.find? key) := by
  induction h with
  | nil => exact .none
  | @cons m n ms ns hm _ ih =>
    obtain ⟨hkey, hvalue⟩ := memberReordered_iff.mp hm
    simp only [Members.find?, List.find?_cons, hkey] at ih ⊢
    cases n.1 == key with
    | true => exact .some hvalue
    | false => exact ih

namespace MembersReordered

theorem keys_perm (h : MembersReordered ms ns') : ms.keys.Perm ns'.keys := by
  obtain ⟨ns, halign, hperm⟩ := h
  rw [keys_eq_of_forall₂ halign]
  exact hperm.map _

theorem nodup_keys (h : MembersReordered ms ns') (hms : ms.keys.Nodup) : ns'.keys.Nodup :=
  h.keys_perm.nodup_iff.mp hms

theorem has_eq (h : MembersReordered ms ns') (key : String) : ms.has key = ns'.has key := by
  have hmem (ms : Members) : ms.has key = true ↔ key ∈ ms.keys := by
    simp [Members.has, Members.keys]
  rw [Bool.eq_iff_iff, hmem, hmem, h.keys_perm.mem_iff]

/-- Members are found under the same keys, and their values are the same up to order. -/
theorem rel_find? (h : MembersReordered ms ns') (hms : ms.keys.Nodup) (key : String) :
    Option.Rel Reordered (ms.find? key) (ns'.find? key) := by
  have hns' := h.nodup_keys hms
  obtain ⟨ns, halign, hperm⟩ := h
  have hns : ns.keys.Nodup := (hperm.map _).nodup_iff.mpr hns'
  have hfind : ns.find? key = ns'.find? key :=
    Option.ext fun t => by
    rw [Members.find?_eq_some_iff hns, Members.find?_eq_some_iff hns', hperm.mem_iff]
  rw [← hfind]
  exact rel_find?_of_forall₂ halign key

/-- Members whose keys are in the same order stand in the same order. -/
theorem forall₂_of_keys_eq (h : MembersReordered ms ns') (hms : ms.keys.Nodup)
    (hkeys : ms.keys = ns'.keys) : List.Forall₂ MemberReordered ms ns' := by
  obtain ⟨ns, halign, hperm⟩ := h
  rw [keys_eq_of_forall₂ halign] at hms hkeys
  rwa [← eq_of_perm_of_map_eq _ hperm hms hkeys]

end MembersReordered

/-! ### Values -/

namespace Reordered

theorem list_iff :
    (Tree.list ts).Reordered u ↔ ∃ us, u = .list us ∧ List.Forall₂ Reordered ts us := by
  constructor
  · rintro (_ | h)
    · exact ⟨ts, rfl, List.forall₂_same.mpr fun t _ => .refl t⟩
    · exact ⟨_, rfl, h⟩
  · rintro ⟨us, rfl, h⟩
    exact .list h

theorem map_iff :
    (Tree.map ms).Reordered u ↔ ∃ ns', u = .map ns' ∧ MembersReordered ms ns' := by
  constructor
  · rintro (_ | _ | ⟨h, hperm⟩)
    · exact ⟨ms, rfl, ms, List.forall₂_same.mpr fun m _ => .mk m.1 (.refl m.2), .refl ms⟩
    · exact ⟨_, rfl, _, h, hperm⟩
  · rintro ⟨ns', rfl, ns, h, hperm⟩
    exact .map h hperm

theorem of_perm (h : ms.Perm ns) : (Tree.map ms).Reordered (.map ns) :=
  .map (List.forall₂_same.mpr fun m _ => .mk m.1 (.refl m.2)) h

theorem isNull_eq (h : t.Reordered u) : t.isNull = u.isNull := by
  cases h <;> rfl

theorem isMap_eq (h : t.Reordered u) : t.isMap = u.isMap := by
  cases h <;> rfl

theorem text?_eq (h : t.Reordered u) : t.text? = u.text? := by
  cases h <;> rfl

/-- Maps have members under the same keys, and their values are the same up to order. -/
theorem rel_find? (h : t.Reordered u) (ht : t.HasDistinctKeys) (key : String) :
    Option.Rel Reordered (t.find? key) (u.find? key) := by
  cases t with
  | map ms =>
    obtain ⟨ns', rfl, hms⟩ := map_iff.mp h
    exact hms.rel_find? (hasDistinctKeys_map_iff.mp ht).1 key
  | list ts =>
    obtain ⟨us, rfl, -⟩ := list_iff.mp h
    exact .none
  | _ =>
    cases h
    exact .none

theorem isSome_find?_eq (h : t.Reordered u) (ht : t.HasDistinctKeys) (key : String) :
    (t.find? key).isSome = (u.find? key).isSome := by
  generalize t.find? key = o, u.find? key = o', h.rel_find? ht key = hrel
  cases hrel <;> rfl

/-- The text under a key is the same. -/
theorem text_find?_eq (h : t.Reordered u) (ht : t.HasDistinctKeys) (key : String) :
    (t.find? key).bind text? = (u.find? key).bind text? := by
  generalize t.find? key = o, u.find? key = o', h.rel_find? ht key = hrel
  cases hrel with
  | none => rfl
  | some h => exact h.text?_eq

/-- Without their null members, trees that are the same up to order stay so. -/
theorem dropNulls (h : t.Reordered u) : t.dropNulls.Reordered u.dropNulls := by
  induction t using Tree.induct generalizing u with
  | list ts ih =>
    obtain ⟨us, rfl, halign⟩ := list_iff.mp h
    rw [Tree.dropNulls, Tree.dropNulls, dropNullsItems_eq_map, dropNullsItems_eq_map]
    exact .list (List.rel_map (fun _ _ h => h.1 h.2)
      ((List.forall₂_and_left ts us).mpr ⟨@ih, halign⟩))
  | map ms ih =>
    obtain ⟨ns', rfl, ns, halign, hperm⟩ := map_iff.mp h
    rw [Tree.dropNulls, Tree.dropNulls, dropNullMembers_eq_filterMap, dropNullMembers_eq_filterMap]
    refine .map (List.rel_filterMap ?_ ((List.forall₂_and_left ms ns).mpr ⟨@ih, halign⟩))
      (hperm.filterMap _)
    rintro m n ⟨ih, hm⟩
    obtain ⟨hkey, hvalue⟩ := memberReordered_iff.mp hm
    simp only [hvalue.isNull_eq]
    split
    · exact .none
    · exact .some (memberReordered_iff.mpr ⟨hkey, ih hvalue⟩)
  | _ =>
    cases h
    exact .refl _

end Reordered

end Tree

end CombatContent
