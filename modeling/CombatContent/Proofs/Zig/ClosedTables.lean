import CombatContent.Proofs.PartOrder.Rounds
import CombatContent.Proofs.Zig.Columns
import CombatContent.Proofs.Zig.FileLines

/-!
# Tables closed under reference

The audit looks at the records of a document and the generator writes their tables, each with its
own view of an absent or an empty template and of repeated ids. Content that passes the audit is
generated with tables in which every reference leads to one row: the material of a piece of armour,
and the tissue template of every part of a body plan.

## Main definitions

* `Zig.RefersOnce`: a row leads to just one row of a table.

## Main results

* `Zig.refersOnce_material`, `Zig.refersOnce_template`: references of content that is not faulty.
* `Zig.closed_tables_of_audit`: the tables of a document that passes the audit, and their lines in
  the file.
-/

namespace CombatContent.Zig

/-- What a row says under a name is an id, and just one row of the table of a dataset, which has a
section in the file, has that id. -/
def RefersOnce (c : Content) (row : Row) (name : String) (d : Dataset) : Prop :=
  ∃ id, id ≠ "" ∧ row.text? name = written id ∧ tableOf c d ∈ tables c ∧
    ((tableOf c d).column "id").count (written id) = 1

variable {c : Content} {d : Dataset}

theorem refersOnce_of_mem (hd : d ∈ Dataset.audited) (hnodup : (c.ids d).Nodup) {row : Row}
    {name id : String} (hrow : row.text? name = written id) (hne : id ≠ "") (hid : id ∈ c.ids d) :
    RefersOnce c row name d := by
  refine ⟨id, hne, hrow, tableOf_mem_tables (List.ne_nil_of_mem hid), ?_⟩
  rw [count_column_id hd, List.count_eq_one_of_mem hnodup hid]

theorem nodup_ids_of_not_isFaulty (h : ¬ c.IsFaulty) (hd : d ∈ Dataset.audited) :
    (c.ids d).Nodup := by
  by_contra hrepeated
  exact h (.repeatedId hd hrepeated)

/-- The material of a piece of armour has one row. -/
theorem refersOnce_material (h : ¬ c.IsFaulty) {r : Record ArmourPiece} (hr : r ∈ c.armourPieces) :
    RefersOnce c (armourPieceRow r) "material_id" .armourMaterials := by
  have hnodup := nodup_ids_of_not_isFaulty h (d := .armourMaterials) (by decide)
  refine refersOnce_of_mem (by decide) hnodup (text?_armourPieceRow r) ?_ ?_
  · exact fun hempty => h (.incompletePiece hr (.inl hempty))
  · by_contra hid
    exact h (.unknownMaterial hr hid)

/-- A part in order gives the template that is written for it. -/
theorem tissueTemplate_of_mem_orderedParts (h : ¬ c.IsFaulty) {r : Record BodyPlan}
    (hr : r ∈ c.bodyPlans) {part : String × BodyPart} (hpart : part ∈ orderedParts r.data) :
    part ∈ r.data.parts ∧ part.2.tissueTemplate = some (writtenTemplate part.2) := by
  have hmem : part ∈ r.data.parts := (PartOrder.mem_order.mp hpart).mem
  refine ⟨hmem, ?_⟩
  cases htemplate : part.2.tissueTemplate with
  | none => exact absurd (.incompletePlan hr ⟨part, hmem, .inl htemplate⟩) h
  | some id => rw [writtenTemplate, htemplate, Option.getD_some]

/-- The template of a part has one row. -/
theorem refersOnce_template (h : ¬ c.IsFaulty) {r : Record BodyPlan} (hr : r ∈ c.bodyPlans)
    {part : String × BodyPart} (hpart : part ∈ orderedParts r.data) :
    RefersOnce c (bodyPartRow part.1 part.2) "tissue_template_id" .tissueTemplates := by
  have hnodup := nodup_ids_of_not_isFaulty h (d := .tissueTemplates) (by decide)
  obtain ⟨hmem, htemplate⟩ := tissueTemplate_of_mem_orderedParts h hr hpart
  refine refersOnce_of_mem (by decide) hnodup (text?_bodyPartRow part.1 part.2) ?_ ?_
  · intro hempty
    rw [hempty] at htemplate
    exact h (.incompletePlan hr ⟨part, hmem, .inr htemplate⟩)
  · by_contra hid
    exact h (.unknownTemplate hr hmem htemplate hid)

/-- Content without malformed records is not refused for one. -/
theorem generate_ne_malformed (h : c.malformed = []) (committed : Option NameSet) (m : Malformed) :
    generate c committed ≠ .error (.malformed m) := by
  rw [generate, h]
  cases Drift.check c.techniqueIds committed <;> simp

/-- A document that passes the audit is not refused for a malformed record. No id is written twice
in the table of an audited dataset; the material of every piece of armour, and the template of every
part of a body plan, is the id of just one row; and no part falls back on another template. The file
consists of the lines of these tables, and what their rows say under a name stands there. -/
theorem closed_tables_of_audit (document : Tree)
    (h : (Audit.run (Content.ofDocument document)).status ≠ .failed) :
    let c := Content.ofDocument document
    (∀ committed m, generate c committed ≠ .error (.malformed m)) ∧
    (∀ d ∈ Dataset.audited, ((tableOf c d).column "id").Nodup ∧
      ∀ text ∈ (tableOf c d).column "id", ∃ id, text = written id) ∧
    (∀ row ∈ (tableOf c .armourPieces).rows, RefersOnce c row "material_id" .armourMaterials) ∧
    (∀ row ∈ (tableOf c .bodyPlans).rows, ∃ parts : List Row,
      row.entries? "parts" = some (parts.map .row) ∧
        ∀ part ∈ parts, RefersOnce c part "tissue_template_id" .tissueTemplates) ∧
    (∀ r ∈ c.bodyPlans, ∀ part ∈ orderedParts r.data,
      part.2.tissueTemplate = some (writtenTemplate part.2)) ∧
    (∀ ids, render c ids = Text.unlines (fileLines ids ((tables c).map tableLines))) ∧
    (∀ (row : Row) name text depth, row.text? name = some text →
      fieldLine depth name text ∈ entryLines depth row) ∧
    ∀ (row : Row) name es depth, row.entries? name = some es →
      entryLines (depth + 1) es <:+: entryLines depth row := by
  intro c
  have hsound : ¬ c.IsFaulty := mt Audit.status_run_eq_failed_iff.mpr h
  refine ⟨generate_ne_malformed ?_, fun d hd => ⟨?_, fun text htext => ?_⟩, ?_, ?_, ?_,
    render_eq_unlines c, fun _ _ _ depth htext => fieldLine_mem_entryLines htext depth,
    fun _ _ _ depth hes => entryLines_infix_entryLines hes depth⟩
  · by_contra hm
    exact hsound (.malformed hm)
  · exact (nodup_column_id hd).mpr (nodup_ids_of_not_isFaulty hsound hd)
  · obtain ⟨id, -, hid⟩ := List.mem_map.mp ((column_id hd).mem_iff.mp htext)
    exact ⟨id, hid.symm⟩
  · rintro row hrow
    obtain ⟨r, hr, rfl⟩ := List.mem_map.mp hrow
    exact refersOnce_material hsound hr
  · rintro row hrow
    obtain ⟨r, hr, rfl⟩ := List.mem_map.mp hrow
    have hplan : r ∈ c.bodyPlans := (mem_sortedBy Record.id).mp hr
    refine ⟨(orderedParts r.data).map fun part => bodyPartRow part.1 part.2, ?_, ?_⟩
    · rw [entries?_bodyPlanRow, List.map_map]
      rfl
    · intro partRow hpartRow
      obtain ⟨part, hpart, rfl⟩ := List.mem_map.mp hpartRow
      exact refersOnce_template hsound hplan hpart
  · exact fun r hr part hpart => (tissueTemplate_of_mem_orderedParts hsound hr hpart).2

/-- A hauberk, and a biped of two parts. -/
def hauberkDocument : Tree := .map [
  ("materials", .map [("armour", .map [("steel", .map [("name", .text "Steel")])])]),
  ("armour_pieces", .map [("hauberk", .map [("id", .text "hauberk"), ("material", .text "steel"),
    ("coverage", .list [.map [("part_tags", .list [.text "torso"])]])])]),
  ("tissue_templates", .map [("flesh", .map [("layers",
    .list [.map [("material_id", .text "muscle"), ("thickness_ratio", .integer 1)]])])]),
  ("body_plans", .map [("biped", .map [("parts", .map [
    ("arm", .map [("parent", .text "torso"), ("tissue_template", .text "flesh")]),
    ("torso", .map [("tissue_template", .text "flesh")])])])])]

theorem closed_tables_hauberkDocument :
    let c := Content.ofDocument hauberkDocument
    (Audit.run c).status ≠ .failed ∧ c.ids .armourPieces = ["hauberk"] ∧
      c.ids .bodyPlans = ["biped"] ∧
      (∀ row ∈ (tableOf c .armourPieces).rows, RefersOnce c row "material_id" .armourMaterials) ∧
      ∀ row ∈ (tableOf c .bodyPlans).rows, ∃ parts : List Row,
        row.entries? "parts" = some (parts.map .row) ∧
          ∀ part ∈ parts, RefersOnce c part "tissue_template_id" .tissueTemplates := by
  intro c
  have haudit : (Audit.run c).status ≠ .failed := by decide +kernel
  obtain ⟨-, -, hpieces, hplans, -⟩ := closed_tables_of_audit hauberkDocument haudit
  exact ⟨haudit, by decide +kernel, by decide +kernel, hpieces, hplans⟩

end CombatContent.Zig
