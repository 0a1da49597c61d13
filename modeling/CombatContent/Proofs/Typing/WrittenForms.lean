import CombatContent.Typing.Shape
import Mathlib.Data.List.Basic

/-!
# The two written forms of a record

A record in which every field may be left out is read alike from the list of its first fields and
from the map that gives them under their names, with the same fault if there is one: both read the
values one after another into the record that an empty map stands for, and what is not given keeps
its value from there. A list with more elements than there are fields is always refused.

## Main definitions

* `Typing.Shape.names`: the names of the fields in declaration order.
* `Typing.Shape.AllOptional`: a record in which every field may be left out.

## Main results

* `Typing.Shape.AllOptional.readList_eq_readMap`: the two forms.
* `Typing.Shape.exists_fault_of_length_lt`: lists that are too long.
-/

namespace CombatContent.Typing.Shape

variable {ρ : Type} {shape : Shape ρ}

/-- The names of the fields in declaration order. -/
def names (shape : Shape ρ) : List String := shape.fields.map Field.name

/-- A record in which every field may be left out. Its fields are told apart by their names. -/
structure AllOptional (shape : Shape ρ) : Prop where
  nodup_names : shape.names.Nodup
  not_required : ∀ f ∈ shape.fields, f.required = false

/-- A field is found under its name. -/
theorem field?_name (h : shape.names.Nodup) {f : Field ρ} (hf : f ∈ shape.fields) :
    shape.field? f.name = some f := by
  obtain ⟨before, after, hfields⟩ := List.append_of_mem hf
  rw [field?, List.find?_eq_some_iff_append]
  refine ⟨beq_self_eq_true _, before, after, hfields, fun g hg => ?_⟩
  rw [names, hfields, List.map_append, List.map_cons, List.nodup_append] at h
  simpa using h.2.2 g.name (List.mem_map_of_mem hg) f.name (List.mem_cons_self ..)

namespace AllOptional

variable (h : shape.AllOptional)
include h

theorem missing?_eq_none (ms : Members) : shape.missing? ms = none :=
  List.find?_eq_none.mpr fun f hf => by simp [h.not_required f hf]

/-- A map is read if its members are. -/
theorem readMap_eq (ms : Members) : shape.readMap ms = shape.readMembers ms := by
  rw [readMap, h.missing?_eq_none]
  cases shape.readMembers ms <;> rfl

/-- Elements are read into the last fields like members under the names of these. The induction is
on the fields, and carries along the record that the fields in front were read into. -/
theorem readElements_eq_foldlM {fs : List (Field ρ)} (hfs : fs ⊆ shape.fields) {ts : List Tree}
    (hlength : ts.length ≤ fs.length) (count : Nat) (x : ρ) :
    shape.readElements count fs ts x =
      ((fs.map Field.name).zip ts).foldlM shape.readMember x := by
  induction fs generalizing ts x with
  | nil =>
    obtain rfl := List.length_eq_zero_iff.mp (Nat.le_zero.mp hlength)
    rfl
  | cons f fs ih =>
    obtain ⟨hf, hfs⟩ := List.cons_subset.mp hfs
    cases ts with
    | nil =>
      have hany : (f :: fs).any Field.required = false :=
        List.any_eq_false.mpr fun g hg =>
          Bool.eq_false_iff.mp (h.not_required g (List.cons_subset.mpr ⟨hf, hfs⟩ hg))
      rw [readElements, hany]
      rfl
    | cons t ts =>
      have hmember : shape.readMember x (f.name, t) = (f.read t).map fun put => put x := by
        rw [readMember, field?_name h.nodup_names hf]
      rw [readElements, List.map_cons, List.zip_cons_cons, List.foldlM_cons, hmember]
      cases f.read t with
      | error fault => rfl
      | ok put => exact ih hfs (Nat.le_of_succ_le_succ hlength) (put x)

/-- The list of the first fields is read like the map that gives them under their names. -/
theorem readList_eq_readMap {ts : List Tree} (hlength : ts.length ≤ shape.fields.length) :
    shape.readList ts = shape.readMap (shape.names.zip ts) := by
  rw [h.readMap_eq, readList, readMembers, names]
  exact h.readElements_eq_foldlM (List.Subset.refl _) hlength _ _

end AllOptional

/-- A list with more elements than fields are left is refused, if not for one of its elements then
for its length. -/
theorem exists_fault_of_readElements {fs : List (Field ρ)} {ts : List Tree}
    (hlength : fs.length < ts.length) (count : Nat) (x : ρ) :
    ∃ fault, shape.readElements count fs ts x = .error fault := by
  induction fs generalizing ts x with
  | nil =>
    obtain ⟨t, ts, rfl⟩ := List.exists_cons_of_length_pos hlength
    exact ⟨_, rfl⟩
  | cons f fs ih =>
    obtain ⟨t, ts, rfl⟩ := List.exists_cons_of_length_pos (Nat.zero_lt_of_lt hlength)
    rw [readElements]
    cases f.read t with
    | error fault => exact ⟨fault, rfl⟩
    | ok put => exact ih (Nat.lt_of_succ_lt_succ hlength) (put x)

theorem exists_fault_of_length_lt {ts : List Tree} (hlength : shape.fields.length < ts.length) :
    ∃ fault, shape.readList ts = .error fault :=
  exists_fault_of_readElements hlength _ _

end CombatContent.Typing.Shape
