import CombatContent.Proofs.Audit.Verdict
import CombatContent.Proofs.Zig.Escapes
import CombatContent.Zig.Generated
import Mathlib.Data.List.Count
import Mathlib.Data.List.Nodup
import Mathlib.Data.Option.Basic

/-!
# The columns of generated tables

What stands under a name in the rows of a table is a column of it. The ids of a dataset are a column
of its table as they are quoted, so that ids are repeated in the table just if they are repeated in
the dataset, although some of the tables are sorted.

## Main definitions

* `Zig.Row.text?`: what is written under a name in a row.
* `Zig.Table.column`: what is written under a name in the rows of a table.

## Main results

* `Zig.column_id`: the ids of a dataset in its table.
* `Zig.text?_bodyPartRow`, `Zig.text?_armourPieceRow`: the references of a row.
-/

namespace CombatContent.Zig

/-! ### Columns -/

/-- What is written under a name in a row, on one line. -/
def Row.text? (row : Row) (name : String) : Option String := (row.value? name).map Literal.text

/-- What is written under a name in the rows of a table. -/
def Table.column (t : Table) (name : String) : List (Option String) :=
  t.rows.map fun row => row.text? name

/-- What is written for a string under a name. -/
def written (s : String) : Option String := some (quoted s)

theorem written_injective : Function.Injective written :=
  (Option.some_injective _).comp quoted_injective

variable {c : Content} {d : Dataset}

/-- The ids of an audited dataset are written in its table. -/
theorem column_id (hd : d ∈ Dataset.audited) :
    ((tableOf c d).column "id").Perm ((c.ids d).map written) := by
  have hcolumn {α : Type} (row : Record α → Row) (hrow : ∀ r, (row r).text? "id" = written r.id)
      (rs : List (Record α)) :
      (rs.map row).map (fun row => row.text? "id") = (rs.map Record.id).map written := by
    rw [List.map_map, List.map_map]
    exact List.map_congr_left fun r _ => hrow r
  cases d with
  | weapons => exact .of_eq (hcolumn weaponRow (fun _ => rfl) c.weapons)
  | techniques => exact .of_eq (hcolumn techniqueRow (fun _ => rfl) c.techniques)
  | armourMaterials => exact .of_eq (hcolumn armourMaterialRow (fun _ => rfl) c.armourMaterials)
  | armourPieces => exact .of_eq (hcolumn armourPieceRow (fun _ => rfl) c.armourPieces)
  | tissueTemplates =>
    exact (List.Perm.of_eq (hcolumn tissueTemplateRow (fun _ => rfl) _)).trans
      (((perm_sortedBy Record.id c.tissueTemplates).map _).map _)
  | bodyPlans =>
    exact (List.Perm.of_eq (hcolumn bodyPlanRow (fun _ => rfl) _)).trans
      (((perm_sortedBy Record.id c.bodyPlans).map _).map _)
  | species => exact absurd hd (by decide)
  | combatTests => exact absurd hd (by decide)

/-- No id is written twice in a table if none comes twice in its dataset. -/
theorem nodup_column_id (hd : d ∈ Dataset.audited) :
    ((tableOf c d).column "id").Nodup ↔ (c.ids d).Nodup := by
  rw [(column_id hd).nodup_iff, List.nodup_map_iff written_injective]

/-- As often as an id comes in its dataset, it is written in the table. -/
theorem count_column_id (hd : d ∈ Dataset.audited) (id : String) :
    ((tableOf c d).column "id").count (written id) = (c.ids d).count id := by
  rw [(column_id hd).count_eq, List.count_map_of_injective _ _ written_injective]

/-! ### References -/

theorem text?_armourPieceRow (r : Record ArmourPiece) :
    (armourPieceRow r).text? "material_id" = written r.data.material := rfl

theorem text?_bodyPartRow (name : String) (p : BodyPart) :
    (bodyPartRow name p).text? "tissue_template_id" = written (writtenTemplate p) := by
  cases hparent : p.parent <;> cases henclosing : p.enclosing <;>
    simp [Row.text?, Row.value?, bodyPartRow, givenField, hparent, henclosing, written,
      Literal.text]

/-- The table of a dataset with records has a section in the file. -/
theorem tableOf_mem_tables (h : c.ids d ≠ []) : tableOf c d ∈ tables c := by
  have hcount : (c.ids d).length = c.count d := by
    cases d <;> simp [Content.ids, Content.count]
  refine List.mem_map_of_mem (List.mem_filter.mpr ⟨by cases d <;> decide, ?_⟩)
  rw [bne_iff_ne, ← hcount, List.length_eq_zero_iff.ne]
  exact h

end CombatContent.Zig
