import CombatContent.Proofs.Audit.Findings

/-!
# The parts of a plan in its audit

The audit of a body plan goes through the parts of the plan and accounts for each of them: under the
templates that the plan uses, or among the parts without a template, and in either case also among
the parts without thickness, if it has none. Templates are kept once each and in order. Parts at
fault are kept in the order of the plan, and one finding lists the first five of them and counts the
rest.

## Main definitions

* `BodyPart.LacksTemplate`, `BodyPart.IsFlat`: the parts at fault.
* `Audit.IsFindingOn`: what is said of parts at fault.

## Main results

* `Audit.isFindingOn_partFinding`: what a finding says.
* `Audit.bodyPlanEntry_accounts_for_parts`: the references and findings of a plan.
-/

namespace CombatContent

/-! ### Parts at fault -/

/-- A part gives no template, or an empty one. -/
def BodyPart.LacksTemplate (p : BodyPart) : Prop :=
  p.tissueTemplate = none ∨ p.tissueTemplate = some ""

instance (p : BodyPart) : Decidable p.LacksTemplate :=
  inferInstanceAs (Decidable (p.tissueTemplate = none ∨ p.tissueTemplate = some ""))

/-- A part gives no measures, or a thickness of zero. -/
def BodyPart.IsFlat (p : BodyPart) : Prop :=
  p.geometry = none ∨ ∃ g, p.geometry = some g ∧ (g.thickness == 0.0) = true

instance (p : BodyPart) : Decidable p.IsFlat :=
  decidable_of_iff _ p.thickness_beq_zero_iff

namespace Audit

/-- What is said of parts at fault, whose names are given in order: nothing if there are none, and
else one message. It lists the names, and beyond five only their count. -/
structure IsFindingOn (what : String) (names messages : List String) : Prop where
  none : names = [] → messages = []
  few : names ≠ [] → names.length ≤ 5 → messages = [what ++ ": " ++ ", ".intercalate names]
  many : 5 < names.length →
    messages = [what ++ ": " ++ ", ".intercalate (names.take 5) ++
      (" (+" ++ toString (names.length - 5) ++ " more)")]

variable {names : List String}

/-! ### Findings -/

theorem listNames_of_length_le (h : names.length ≤ 5) :
    listNames names = ", ".intercalate names := by
  rw [listNames, maxListedNames, if_neg (Nat.not_lt.mpr h), List.take_of_length_le h]

theorem listNames_of_lt_length (h : 5 < names.length) :
    listNames names = ", ".intercalate (names.take 5) ++
      (" (+" ++ toString (names.length - 5) ++ " more)") := by
  rw [listNames, maxListedNames, if_pos h]
  simp only [String.append_assoc]

/-- A finding lists up to five names, and counts those beyond. -/
theorem isFindingOn_partFinding (what : String) (names : List String) :
    IsFindingOn what names (partFinding what names) where
  none h := by rw [h, partFinding, List.isEmpty_nil, if_pos rfl]
  few hne h := by
    rw [partFinding, List.isEmpty_eq_false_iff.mpr hne, if_neg Bool.false_ne_true,
      listNames_of_length_le h]
  many h := by
    have hne : names ≠ [] := by
      rintro rfl
      exact absurd h (by decide)
    rw [partFinding, List.isEmpty_eq_false_iff.mpr hne, if_neg Bool.false_ne_true,
      listNames_of_lt_length h]
    simp only [String.append_assoc]

example : partFinding "Flat" ["a", "b", "c", "d", "e", "f"] =
    ["Flat: a, b, c, d, e (+1 more)"] := by
  decide +kernel

/-! ### The audit of a plan -/

theorem partNames_eq {p : BodyPart → Bool} {q : BodyPart → Prop} [DecidablePred q]
    (h : ∀ part, p part = true ↔ q part) (parts : List (String × BodyPart)) :
    partNames p parts = (parts.filter fun part => q part.2).map (·.1) := by
  rw [partNames]
  congr 1
  refine List.filter_congr fun part _ => ?_
  rw [Bool.eq_iff_iff, h, decide_eq_true_iff]

/-- The audit of a plan refers once, in ascending order, to each of the templates that its parts
give, and its field lists the same ones. It has one error about the parts that give no template, or
an empty one, and one warning about those without thickness, if there are any; these name the parts
in the order of the plan. -/
theorem bodyPlanEntry_accounts_for_parts (r : Record BodyPlan) :
    (∃ ids : List String, ids.Pairwise (· < ·) ∧
      (∀ id, id ∈ ids ↔ ∃ part ∈ r.data.parts, part.2.tissueTemplate = some id ∧ id ≠ "") ∧
      (bodyPlanEntry r).references = ids.map (fun id => ⟨.record .tissueTemplates, id⟩) ∧
      (bodyPlanEntry r).field? "tissue_templates_used" = some (.list ids)) ∧
    IsFindingOn "Parts missing tissue_template"
      ((r.data.parts.filter fun part => part.2.LacksTemplate).map (·.1))
      (bodyPlanEntry r).errors ∧
    IsFindingOn "Parts with zero/missing geometry"
      ((r.data.parts.filter fun part => part.2.IsFlat).map (·.1)) (bodyPlanEntry r).warnings := by
  have hlacks (p : BodyPart) : p.namedTemplate?.isNone = true ↔ p.LacksTemplate := by
    rw [Option.isNone_iff_eq_none, BodyPart.namedTemplate?_eq_none_iff, BodyPart.LacksTemplate]
  rw [bodyPlanEntry_eq]
  refine ⟨⟨(templatesUsed r.data.parts).toList, (templatesUsed r.data.parts).ascending,
    fun id => mem_templatesUsed, rfl, rfl⟩, ?_, ?_⟩
  · rw [← partNames_eq hlacks]
    exact isFindingOn_partFinding ..
  · rw [← partNames_eq (q := BodyPart.IsFlat) fun p => p.thickness_beq_zero_iff]
    exact isFindingOn_partFinding ..

end Audit

end CombatContent
