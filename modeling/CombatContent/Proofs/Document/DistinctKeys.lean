import CombatContent.Tree
import Mathlib.Data.List.Forall2
import Mathlib.Data.List.Nodup

/-!
# Distinct keys

Where every map of a tree has one member per key, what is found under a key is the value of the one
member of that key, and this stays so for what is found, for what is left without null members, and
for what is put.

## Main results

* `Tree.hasDistinctKeys_list_iff`, `Tree.hasDistinctKeys_map_iff`: lists and maps.
* `Tree.HasDistinctKeys.of_find?`, `Tree.HasDistinctKeys.dropNulls`: what keeps keys distinct.
* `Tree.hasDistinctKeys_map_put`: putting a member does.
-/

namespace CombatContent

namespace Members

/-- Where keys are distinct, what is found under a key is the value of the member of that key. -/
theorem find?_eq_some_iff {ms : Members} {key : String} {t : Tree} (h : ms.keys.Nodup) :
    ms.find? key = some t ↔ (key, t) ∈ ms := by
  rw [find?, Option.map_eq_some_iff]
  constructor
  · rintro ⟨m, hfind, rfl⟩
    obtain rfl : m.1 = key := by simpa using List.find?_some hfind
    exact List.mem_of_find?_eq_some hfind
  · intro hmem
    cases hfind : List.find? (fun m => m.1 == key) ms with
    | none => exact absurd (List.find?_eq_none.mp hfind _ hmem) (by simp)
    | some m =>
      have hkey : m.1 = key := by simpa using List.find?_some hfind
      have hm : m = (key, t) :=
        List.inj_on_of_nodup_map h (List.mem_of_find?_eq_some hfind) hmem hkey
      exact ⟨m, rfl, by rw [hm]⟩

end Members

namespace Tree

/-- A property of all trees from that of their elements and members. -/
theorem induct {motive : Tree → Prop} (null : motive .null)
    (boolean : ∀ b, motive (.boolean b)) (integer : ∀ n, motive (.integer n))
    (float : ∀ x, motive (.float x)) (text : ∀ s, motive (.text s))
    (list : ∀ ts, (∀ t ∈ ts, motive t) → motive (.list ts))
    (map : ∀ ms : Members, (∀ m ∈ ms, motive m.2) → motive (.map ms)) (t : Tree) : motive t :=
  @Tree.rec motive (fun ts => ∀ t ∈ ts, motive t) (fun ms => ∀ m ∈ ms, motive m.2)
    (fun m => motive m.2) null boolean integer float text list map
    (List.forall_mem_nil _) (fun _ _ ht hts => List.forall_mem_cons.mpr ⟨ht, hts⟩)
    (List.forall_mem_nil _) (fun _ _ hm hms => List.forall_mem_cons.mpr ⟨hm, hms⟩)
    (fun _ _ ht => ht) t

variable {t u : Tree} {ts : List Tree} {ms : Members} {key : String}

theorem hasDistinctKeys_list_iff :
    (Tree.list ts).HasDistinctKeys ↔ ∀ t ∈ ts, t.HasDistinctKeys := by
  rw [HasDistinctKeys]
  induction ts with
  | nil => simp [ItemsHaveDistinctKeys]
  | cons t ts ih => rw [ItemsHaveDistinctKeys, ih, List.forall_mem_cons]

/-- Elements are gathered in reverse. -/
theorem hasDistinctKeys_list_reverse (h : ∀ t ∈ ts, t.HasDistinctKeys) :
    (Tree.list ts.reverse).HasDistinctKeys :=
  hasDistinctKeys_list_iff.mpr fun t ht => h t (List.mem_reverse.mp ht)

theorem membersHaveDistinctKeys_iff :
    MembersHaveDistinctKeys ms ↔ ∀ m ∈ ms, m.2.HasDistinctKeys := by
  induction ms with
  | nil => simp [MembersHaveDistinctKeys]
  | cons m ms ih => rw [MembersHaveDistinctKeys, ih, List.forall_mem_cons]

theorem hasDistinctKeys_map_iff :
    (Tree.map ms).HasDistinctKeys ↔ ms.keys.Nodup ∧ ∀ m ∈ ms, m.2.HasDistinctKeys := by
  rw [HasDistinctKeys, membersHaveDistinctKeys_iff]

theorem HasDistinctKeys.of_find? (h : t.HasDistinctKeys) (hfind : t.find? key = some u) :
    u.HasDistinctKeys := by
  cases t with
  | map ms =>
    obtain ⟨hkeys, hvalues⟩ := hasDistinctKeys_map_iff.mp h
    exact hvalues _ ((Members.find?_eq_some_iff hkeys).mp hfind)
  | _ => simp [Tree.find?, members?] at hfind

/-- The keys that stay are those of the members that are not null. -/
theorem keys_dropNullMembers (ms : Members) :
    Members.keys (dropNullMembers ms) = Members.keys (ms.filter fun m => !m.2.isNull) := by
  rw [dropNullMembers_eq_filterMap, Members.keys, Members.keys, List.map_filterMap,
    ← List.filterMap_eq_map, List.filterMap_filter]
  refine List.filterMap_congr fun m _ => ?_
  cases m.2.isNull <;> rfl

theorem HasDistinctKeys.dropNulls (h : t.HasDistinctKeys) : t.dropNulls.HasDistinctKeys := by
  induction t using Tree.induct with
  | list ts ih =>
    rw [Tree.dropNulls, dropNullsItems_eq_map, hasDistinctKeys_list_iff]
    rw [hasDistinctKeys_list_iff] at h
    exact List.forall_mem_map.mpr fun t ht => ih t ht (h t ht)
  | map ms ih =>
    obtain ⟨hkeys, hvalues⟩ := hasDistinctKeys_map_iff.mp h
    rw [Tree.dropNulls, hasDistinctKeys_map_iff]
    constructor
    · rw [keys_dropNullMembers]
      exact hkeys.sublist (List.filter_sublist.map _)
    · intro n hn
      rw [dropNullMembers_eq_filterMap] at hn
      obtain ⟨m, hm, hdrop⟩ := List.mem_filterMap.mp hn
      split at hdrop
      · exact absurd hdrop (Option.some_ne_none n).symm
      · obtain rfl := Option.some.inj hdrop
        exact ih m hm (hvalues m hm)
  | _ => exact h

theorem hasDistinctKeys_map_nil : (Tree.map []).HasDistinctKeys :=
  hasDistinctKeys_map_iff.mpr ⟨List.nodup_nil, List.forall_mem_nil _⟩

theorem eq_or_mem_of_mem_put {ms : Members} {key : String} {t : Tree} {m : String × Tree}
    (h : m ∈ ms.put key t) : m = (key, t) ∨ m ∈ ms := by
  induction ms with
  | nil => exact .inl (List.mem_singleton.mp h)
  | cons n ms ih =>
    rw [Members.put] at h
    split at h
    · rcases List.mem_cons.mp h with rfl | h
      · exact .inl rfl
      · exact .inr (List.mem_cons_of_mem _ h)
    · rcases List.mem_cons.mp h with rfl | h
      · exact .inr (List.mem_cons_self ..)
      · exact (ih h).imp_right (List.mem_cons_of_mem _)

theorem hasDistinctKeys_map_put {ms : Members} {key : String} {t : Tree}
    (hms : (Tree.map ms).HasDistinctKeys) (ht : t.HasDistinctKeys) :
    (Tree.map (ms.put key t)).HasDistinctKeys := by
  obtain ⟨hkeys, hvalues⟩ := hasDistinctKeys_map_iff.mp hms
  refine hasDistinctKeys_map_iff.mpr ⟨?_, fun m hm => ?_⟩
  · rw [Members.keys_put]
    split
    · exact hkeys
    · next hkey => exact List.nodup_append_comm.mp (List.nodup_cons.mpr ⟨hkey, hkeys⟩)
  · rcases eq_or_mem_of_mem_put hm with rfl | hm
    · exact ht
    · exact hvalues m hm

end Tree

end CombatContent
