import CombatContent.Proofs.PartOrder.Rounds
import CombatContent.Proofs.Zig.Columns
import CombatContent.Proofs.Zig.FileLines

/-!
# The tissue templates of parts

The audit and the generator each have a view of the tissue template of a part. The audit takes an
empty name for none, and counts the part as one that lacks a template. The generator falls back on
the template of a limb only where no name is given at all. So the two agree on every part but one
with an empty name, for which the generator writes the empty name that the audit objects to.

## Main definitions

* `Record.cutTo`: a plan with one of its parts alone, for what the audit counts for that part.
* `Zig.TemplatesAgree`: what is written for a part is what the audit counts for it.

## Main results

* `Zig.templatesAgree_iff`: the parts on which the two agree.
* `Zig.isPrinted_bodyPlanRow`, `Zig.infix_entryLines_bodyPartRow`: plans and parts in the file.
* `Zig.templates_of_plan`: the parts of a plan in its audit, in its row and in the file.
-/

namespace CombatContent

/-- A plan with one of its parts alone. -/
def Record.cutTo (r : Record BodyPlan) (part : String × BodyPart) : Record BodyPlan :=
  { r with data := { r.data with parts := [part] } }

namespace Zig

open Audit (bodyPlanEntry partFinding partNames)

variable {r : Record BodyPlan} {part : String × BodyPart} {t : String}

/-- A template is written for a part just if the audit counts it as one that the part uses, or if
the audit counts the part as one without a template and the template is the fallback. -/
def TemplatesAgree (row : Row) (counted : Audit.Entry) : Prop :=
  ∀ t, row.text? "tissue_template_id" = written t ↔
    counted.Refers .tissueTemplates t ∨ (counted.hasErrors = true ∧ t = fallbackTemplate)

/-! ### One part in the audit -/

/-- The audit counts the template that a part gives, if it is not empty. -/
theorem refers_cutTo :
    (bodyPlanEntry (r.cutTo part)).Refers .tissueTemplates t ↔
      part.2.tissueTemplate = some t ∧ t ≠ "" := by
  rw [Audit.refers_bodyPlanEntry, Record.cutTo]
  simp

/-- The audit counts a part as one without a template if it gives none, or an empty one. -/
theorem hasErrors_cutTo :
    (bodyPlanEntry (r.cutTo part)).hasErrors = true ↔
      part.2.tissueTemplate = none ∨ part.2.tissueTemplate = some "" := by
  rw [Audit.hasErrors_bodyPlanEntry, BodyPlan.IsIncomplete, Record.cutTo]
  simp

/-- What a plan refers to is counted for one of its parts. -/
theorem refers_iff_exists_cutTo :
    (bodyPlanEntry r).Refers .tissueTemplates t ↔
      ∃ part ∈ r.data.parts, (bodyPlanEntry (r.cutTo part)).Refers .tissueTemplates t := by
  rw [Audit.refers_bodyPlanEntry]
  simp only [refers_cutTo, true_and]

/-- The error of a plan lists the parts that are counted as ones without a template. -/
theorem errors_eq_partFinding (r : Record BodyPlan) :
    (bodyPlanEntry r).errors = partFinding "Parts missing tissue_template"
      ((r.data.parts.filter fun part => (bodyPlanEntry (r.cutTo part)).hasErrors).map (·.1)) := by
  have hcounted : partNames (fun p => p.namedTemplate?.isNone) r.data.parts =
      (r.data.parts.filter fun part => (bodyPlanEntry (r.cutTo part)).hasErrors).map (·.1) := by
    rw [partNames]
    congr 1
    refine List.filter_congr fun part _ => ?_
    rw [Bool.eq_iff_iff, hasErrors_cutTo, Option.isNone_iff_eq_none,
      BodyPart.namedTemplate?_eq_none_iff]
  rw [← hcounted, Audit.bodyPlanEntry_eq]
  rfl

/-! ### Agreement -/

/-- The audit and the generator agree on a part just if it does not give an empty template. -/
theorem templatesAgree_iff :
    TemplatesAgree (bodyPartRow part.1 part.2) (bodyPlanEntry (r.cutTo part)) ↔
      part.2.tissueTemplate ≠ some "" := by
  rw [TemplatesAgree, text?_bodyPartRow]
  simp only [written_injective.eq_iff, refers_cutTo, hasErrors_cutTo, writtenTemplate]
  rcases htemplate : part.2.tissueTemplate with _ | id
  · simp [eq_comm]
  by_cases hempty : id = ""
  · -- The empty name is written, although the audit counts neither it nor a limb in its place.
    subst hempty
    have hlimb : "" ≠ fallbackTemplate := by decide
    refine iff_of_false (fun hagree => ?_) (by simp)
    rcases (hagree "").mp rfl with hused | hfallback
    · exact hused.2 rfl
    · exact hlimb hfallback.2
  · simp only [Option.getD_some, Option.some.injEq, reduceCtorEq, hempty, false_and,
      or_false, ne_eq, not_false_eq_true, iff_true]
    intro t
    constructor
    · rintro rfl
      exact ⟨rfl, hempty⟩
    · exact fun hused => hused.1

/-! ### Parts in the file -/

/-- The row of a plan is one of its table, and its lines stand in the file. -/
theorem isPrinted_bodyPlanRow {c : Content} (hr : r ∈ c.bodyPlans) :
    bodyPlanRow r ∈ (bodyPlanTable c.bodyPlans).rows ∧ IsPrinted c (rowLines (bodyPlanRow r)) := by
  have hrow : bodyPlanRow r ∈ (bodyPlanTable c.bodyPlans).rows :=
    List.mem_map_of_mem ((mem_sortedBy Record.id).mpr hr)
  have hids : c.ids .bodyPlans ≠ [] := List.ne_nil_of_mem (List.mem_map_of_mem hr)
  exact ⟨hrow, isPrinted_of_mem (tableOf_mem_tables hids) hrow⟩

/-- The lines of a part stand in the row of its plan, two steps further in. -/
theorem infix_entryLines_bodyPartRow (hpart : part ∈ orderedParts r.data) :
    entryLines 4 (bodyPartRow part.1 part.2) <:+: rowLines (bodyPlanRow r) := by
  have hparts := entryLines_infix_entryLines (entries?_bodyPlanRow r) 2
  have hrow : (Entry.row (bodyPartRow part.1 part.2)).lines 3 <:+: entryLines 2 (bodyPlanRow r) :=
    (lines_infix_entryLines (List.mem_map_of_mem hpart) 3).trans hparts
  have hlines : entryLines 4 (bodyPartRow part.1 part.2) <:+:
      (Entry.row (bodyPartRow part.1 part.2)).lines 3 := ⟨[_], [_], rfl⟩
  exact (hlines.trans hrow).trans ⟨[_], [_], rfl⟩

/-- The template that is written for a part stands on a line of it. -/
theorem fieldLine_template_mem (part : String × BodyPart) :
    fieldLine 4 "tissue_template_id" (quoted (writtenTemplate part.2)) ∈
      entryLines 4 (bodyPartRow part.1 part.2) :=
  fieldLine_mem_entryLines (text?_bodyPartRow part.1 part.2) 4

/-- The audit of a plan refers to the templates that it counts for its parts, and lists the parts
that it counts as ones without. The row of the plan has a row for every part that no later part of
its name replaces, and the lines of both stand in the file of any content that has the plan. What is
written there agrees with what the audit counts just if the part does not give an empty template;
for one that does, the audit counts it as a part without a template, but the empty name is written
and not the fallback. -/
theorem templates_of_plan (r : Record BodyPlan) :
    (∀ t, (bodyPlanEntry r).Refers .tissueTemplates t ↔
      ∃ part ∈ r.data.parts, (bodyPlanEntry (r.cutTo part)).Refers .tissueTemplates t) ∧
    (bodyPlanEntry r).errors = partFinding "Parts missing tissue_template"
      ((r.data.parts.filter fun part => (bodyPlanEntry (r.cutTo part)).hasErrors).map (·.1)) ∧
    (bodyPlanRow r).entries? "parts" =
      some ((orderedParts r.data).map fun part => .row (bodyPartRow part.1 part.2)) ∧
    (∀ part, part ∈ orderedParts r.data ↔ PartOrder.IsLast r.data.parts part) ∧
    (∀ c : Content, r ∈ c.bodyPlans →
      bodyPlanRow r ∈ (bodyPlanTable c.bodyPlans).rows ∧ IsPrinted c (rowLines (bodyPlanRow r)) ∧
      ∀ part ∈ orderedParts r.data, IsPrinted c (entryLines 4 (bodyPartRow part.1 part.2)) ∧
        fieldLine 4 "tissue_template_id" (quoted (writtenTemplate part.2)) ∈
          entryLines 4 (bodyPartRow part.1 part.2)) ∧
    ∀ part ∈ r.data.parts,
      let row := bodyPartRow part.1 part.2
      let counted := bodyPlanEntry (r.cutTo part)
      (TemplatesAgree row counted ↔ part.2.tissueTemplate ≠ some "") ∧
      (part.2.tissueTemplate = some "" → counted.hasErrors = true ∧
        (∀ t, ¬ counted.Refers .tissueTemplates t) ∧
        row.text? "tissue_template_id" = written "") := by
  refine ⟨fun _ => refers_iff_exists_cutTo, errors_eq_partFinding r, entries?_bodyPlanRow r,
    fun _ => PartOrder.mem_order, fun c hr => ?_,
    fun part _ => ⟨templatesAgree_iff, fun hempty => ⟨?_, ?_, ?_⟩⟩⟩
  · obtain ⟨hrow, hprinted⟩ := isPrinted_bodyPlanRow hr
    exact ⟨hrow, hprinted, fun part hpart =>
      ⟨hprinted.mono (infix_entryLines_bodyPartRow hpart), fieldLine_template_mem part⟩⟩
  · exact hasErrors_cutTo.mpr (.inr hempty)
  · intro t ht
    obtain ⟨heq, hne⟩ := refers_cutTo.mp ht
    exact hne (Option.some.inj (heq.symm.trans hempty))
  · rw [text?_bodyPartRow, writtenTemplate, hempty, Option.getD_some]

end Zig

end CombatContent
