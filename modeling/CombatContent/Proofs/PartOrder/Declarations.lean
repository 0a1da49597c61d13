import CombatContent.PartOrder
import Mathlib.Data.List.Induction
import Mathlib.Data.List.Nodup
import Mathlib.Data.List.Sort
import Mathlib.Data.String.Basic

/-!
# The parts that a plan declares

A plan declares parts by name, and a name may be declared more than once. The plan is then that of
the last declarations, one part for each name, in order of names; nothing else of the list of
declarations matters.

## Main definitions

* `PartOrder.IsLast`: a declaration that no later one replaces.
* `PartOrder.Ascending`: one part per name, in order of names.

## Main results

* `PartOrder.ascending_lastByName`, `PartOrder.mem_lastByName`.
* `PartOrder.lastByName_congr`: only the last declarations matter.
* `PartOrder.lastByName_perm`: nor does their order, where names are declared once.
-/

namespace CombatContent.PartOrder

variable {α : Type}

/-- A declaration of a part that is not followed by another of its name. -/
def IsLast (parts : List (String × α)) (p : String × α) : Prop :=
  ∃ before after, parts = before ++ p :: after ∧ p.1 ∉ after.map (·.1)

/-- Parts in ascending order of their names, so that no two have the same. -/
def Ascending (parts : List (String × α)) : Prop := parts.Pairwise fun p q => p.1 < q.1

theorem Ascending.nodup_names {parts : List (String × α)} (h : Ascending parts) :
    (parts.map (·.1)).Nodup :=
  List.pairwise_map.mpr (h.imp fun hlt => ne_of_lt hlt)

theorem Ascending.eq_of_name_eq {parts : List (String × α)} (h : Ascending parts)
    {p q : String × α} (hp : p ∈ parts) (hq : q ∈ parts) (hname : p.1 = q.1) : p = q :=
  List.inj_on_of_nodup_map h.nodup_names hp hq hname

/-- Ascending parts are determined by what they are. -/
theorem Ascending.eq_of_mem_iff {parts parts' : List (String × α)} (h : Ascending parts)
    (h' : Ascending parts') (hmem : ∀ p, p ∈ parts ↔ p ∈ parts') : parts = parts' := by
  have hirrefl : Std.Irrefl fun p q : String × α => p.1 < q.1 := ⟨fun p => lt_irrefl p.1⟩
  have hantisymm : Std.Antisymm fun p q : String × α => p.1 < q.1 :=
    ⟨fun p q hpq hqp => absurd hqp (lt_asymm hpq)⟩
  exact List.Pairwise.eq_of_mem_iff h h' hmem

/-! ### Last declarations -/

/-- With one more declaration, that one and those of other names are the last ones. -/
theorem isLast_concat {parts : List (String × α)} {p q : String × α} :
    IsLast (parts ++ [p]) q ↔ q = p ∨ (IsLast parts q ∧ q.1 ≠ p.1) := by
  constructor
  · rintro ⟨before, after, heq, hname⟩
    rcases List.eq_nil_or_concat' after with rfl | ⟨after, x, rfl⟩
    · exact .inl (List.singleton_inj.mp (List.append_inj' heq rfl).2).symm
    · rw [← List.cons_append, ← List.append_assoc] at heq
      obtain ⟨rfl, hx⟩ := List.append_inj' heq rfl
      obtain rfl := List.singleton_inj.mp hx
      rw [List.map_append, List.mem_append, not_or] at hname
      exact .inr ⟨⟨before, after, rfl, hname.1⟩, by simpa using hname.2⟩
  · rintro (rfl | ⟨⟨before, after, rfl, hname⟩, hne⟩)
    · exact ⟨parts, [], rfl, List.not_mem_nil⟩
    · refine ⟨before, after ++ [p], by simp, ?_⟩
      rw [List.map_append, List.mem_append, not_or]
      exact ⟨hname, by simpa using hne⟩

theorem IsLast.mem {parts : List (String × α)} {p : String × α} (h : IsLast parts p) :
    p ∈ parts := by
  obtain ⟨before, after, rfl, -⟩ := h
  simp

/-- Where every name is declared once, every declaration is the last of its name. -/
theorem isLast_iff_mem {parts : List (String × α)} (h : (parts.map (·.1)).Nodup)
    {p : String × α} : IsLast parts p ↔ p ∈ parts := by
  refine ⟨IsLast.mem, fun hp => ?_⟩
  obtain ⟨before, after, rfl⟩ := List.append_of_mem hp
  rw [List.map_append, List.map_cons] at h
  exact ⟨before, after, rfl, (List.nodup_cons.mp (List.nodup_append.mp h).2.1).1⟩

/-! ### Parts in order of names -/

/-- A part that is put replaces that of its name. -/
theorem mem_putPart {name : String} {part : α} {placed : List (String × α)}
    (h : Ascending placed) {q : String × α} :
    q ∈ putPart name part placed ↔ q = (name, part) ∨ (q ∈ placed ∧ q.1 ≠ name) := by
  induction placed with
  | nil => simp [putPart]
  | cons p ps ih =>
    obtain ⟨hp, hps⟩ := List.pairwise_cons.mp h
    have hne (hle : name ≤ p.1) (hq : q ∈ ps) : q.1 ≠ name := (hle.trans_lt (hp q hq)).ne'
    rw [putPart]
    split
    · next heq =>
      rw [List.mem_cons, List.mem_cons]
      constructor
      · rintro (rfl | hq)
        · exact .inl rfl
        · exact .inr ⟨.inr hq, hne heq.le hq⟩
      · rintro (rfl | ⟨rfl | hq, hname⟩)
        · exact .inl rfl
        · exact absurd heq.symm hname
        · exact .inr hq
    · next hneq =>
      split
      · next hlt =>
        rw [List.mem_cons, List.mem_cons]
        constructor
        · rintro (rfl | rfl | hq)
          · exact .inl rfl
          · exact .inr ⟨.inl rfl, hlt.ne'⟩
          · exact .inr ⟨.inr hq, hne hlt.le hq⟩
        · rintro (rfl | ⟨hq, -⟩)
          · exact .inl rfl
          · exact .inr hq
      · rw [List.mem_cons, List.mem_cons, ih hps]
        constructor
        · rintro (rfl | rfl | ⟨hq, hname⟩)
          · exact .inr ⟨.inl rfl, Ne.symm hneq⟩
          · exact .inl rfl
          · exact .inr ⟨.inr hq, hname⟩
        · rintro (rfl | ⟨rfl | hq, hname⟩)
          · exact .inr (.inl rfl)
          · exact .inl rfl
          · exact .inr (.inr ⟨hq, hname⟩)

theorem ascending_putPart {name : String} {part : α} {placed : List (String × α)}
    (h : Ascending placed) : Ascending (putPart name part placed) := by
  induction placed with
  | nil => exact List.pairwise_singleton _ _
  | cons p ps ih =>
    obtain ⟨hp, hps⟩ := List.pairwise_cons.mp h
    rw [putPart]
    split
    · next heq => exact List.pairwise_cons.mpr ⟨fun q hq => heq ▸ hp q hq, hps⟩
    · next hneq =>
      split
      · next hlt =>
        refine List.pairwise_cons.mpr ⟨fun q hq => ?_, h⟩
        rcases List.mem_cons.mp hq with rfl | hq
        · exact hlt
        · exact hlt.trans (hp q hq)
      · next hnlt =>
        refine List.pairwise_cons.mpr ⟨fun q hq => ?_, ih hps⟩
        rcases (mem_putPart hps).mp hq with rfl | ⟨hq, -⟩
        · exact lt_of_le_of_ne (not_lt.mp hnlt) (Ne.symm hneq)
        · exact hp q hq

theorem lastByName_concat (parts : List (String × α)) (p : String × α) :
    lastByName (parts ++ [p]) = putPart p.1 p.2 (lastByName parts) := by
  rw [lastByName, List.foldl_append]
  rfl

/-- The plan has one part per name, in order of names. -/
theorem ascending_lastByName (parts : List (String × α)) : Ascending (lastByName parts) := by
  induction parts using List.reverseRecOn with
  | nil => exact List.Pairwise.nil
  | append_singleton parts p ih =>
    rw [lastByName_concat]
    exact ascending_putPart ih

/-- The parts of the plan are the last declarations. -/
theorem mem_lastByName {parts : List (String × α)} {q : String × α} :
    q ∈ lastByName parts ↔ IsLast parts q := by
  induction parts using List.reverseRecOn with
  | nil => simp [lastByName, IsLast]
  | append_singleton parts p ih =>
    rw [lastByName_concat, mem_putPart (ascending_lastByName parts), isLast_concat, ih]

/-- Declarations with the same last ones make the same plan. -/
theorem lastByName_congr {parts parts' : List (String × α)}
    (h : ∀ p, IsLast parts p ↔ IsLast parts' p) : lastByName parts = lastByName parts' :=
  (ascending_lastByName parts).eq_of_mem_iff (ascending_lastByName parts') fun p => by
    rw [mem_lastByName, mem_lastByName, h]

/-- Where every name is declared once, the order of the declarations does not matter. -/
theorem lastByName_perm {parts parts' : List (String × α)} (hperm : parts.Perm parts')
    (hnodup : (parts.map (·.1)).Nodup) : lastByName parts = lastByName parts' := by
  have hnodup' : (parts'.map (·.1)).Nodup := (hperm.map _).nodup_iff.mp hnodup
  refine lastByName_congr fun p => ?_
  rw [isLast_iff_mem hnodup, isLast_iff_mem hnodup', hperm.mem_iff]

end CombatContent.PartOrder
