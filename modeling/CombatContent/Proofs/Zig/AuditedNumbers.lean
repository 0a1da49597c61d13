import CombatContent.Proofs.Zig.FileLines

/-!
# Numbers in the audit and in the tables

The audit of a record and its row of the table fill in what the record does not give, each on its
own. A number that both of them have is the same on either side: the row has the text of the number
that the audit shows. For a bias this is so because a bias without any multiplier, which the audit
counts as no bias, gives what a missing bias gives.

## Main definitions

* `Audit.Entry.numericNames`: the fields of an audit that show a number.
* `Zig.Row.names`: the names in a row.
* `Zig.NumbersAgree`: an audit and a row that have the same numbers under the names that both have.
* `Zig.auditedNumbers`: the names that a dataset's audit and its table share.

## Main results

* `Audit.biasMult_eq`: the multipliers of a technique.
* `Zig.exists_row_of_mem_typedEntries`: the row of a record that is audited.
* `Zig.numbers_shown_as_written`: the numbers of typed records, and the channels of techniques.
-/

namespace CombatContent.Audit

/-- Whether a field shows a number. -/
def FieldValue.isNumeric : FieldValue → Bool
  | .number _ | .count _ => true
  | .text _ | .list _ => false

/-- The names of the fields that show a number. -/
def Entry.numericNames (e : Entry) : List String :=
  (e.fields.filter fun f => f.2.isNumeric).map (·.1)

/-- A bias without any multiplier gives what a missing bias gives. -/
theorem biasMult_eq {pick : AxisBias → Option Float}
    (hpick : ∀ b : AxisBias, b.isEmpty = true → pick b = none) (t : Technique) :
    biasMult t pick = (pick (t.axisBias.getD {})).getD 1.0 := by
  rw [biasMult, givenBias?]
  cases t.axisBias with
  | none => rw [Option.getD_none, hpick {} rfl, Option.filter_none, Option.bind_none]
  | some b =>
    by_cases hb : b.isEmpty = true
    · rw [Option.filter_some_neg (by simp [hb]), Option.bind_none, Option.getD_some, hpick b hb]
    · rw [Option.filter_some_pos (by simp [hb]), Option.bind_some, Option.getD_some]

/-- A bias is empty if it gives none of the three multipliers. -/
theorem isEmpty_iff {b : AxisBias} :
    b.isEmpty = true ↔ b.geometry = none ∧ b.energy = none ∧ b.rigidity = none := by
  simp [AxisBias.isEmpty, and_assoc]

end CombatContent.Audit

namespace CombatContent.Zig

open Audit

/-! ### Rows -/

/-- The name under which an entry stands. -/
def Entry.name? : Entry → Option String
  | .field name _ | .record name _ | .slice name _ => some name
  | .item _ | .row _ => none

/-- The names in a row. -/
def Row.names (row : Row) : List String := row.filterMap Entry.name?

/-! ### Agreement -/

/-- An audit and a row that have the same numbers: the names of numbers that both have are these,
each stands in them once, and the row has the text of the number that the audit shows, on a line of
its own. -/
structure NumbersAgree (names : List String) (e : Audit.Entry) (row : Row) : Prop where
  nodup_fields : (e.fields.map Prod.fst).Nodup
  nodup_names : row.names.Nodup
  shared : e.numericNames.filter (· ∈ row.names) = names
  text? : ∀ name ∈ names, row.text? name = some (float (e.number name))
  line_mem : ∀ name ∈ names, ∀ depth,
    indented depth (fieldText name (float (e.number name)) ++ ",") ∈ entryLines depth row

theorem NumbersAgree.of_map_text? {names : List String} {e : Audit.Entry} {row : Row}
    (hfields : (e.fields.map Prod.fst).Nodup) (hnames : row.names.Nodup)
    (hshared : e.numericNames.filter (· ∈ row.names) = names)
    (htext : names.map row.text? = names.map fun name => some (float (e.number name))) :
    NumbersAgree names e row :=
  have htext? := List.map_inj_left.mp htext
  ⟨hfields, hnames, hshared, htext?, fun name hname depth =>
    fieldLine_eq .. ▸ fieldLine_mem_entryLines (htext? name hname) depth⟩

/-- The numbers that the audit of a dataset shows and its table has. The audits of armour pieces
and of tissue templates show only numbers that their tables do not have. -/
def auditedNumbers : Dataset → List String
  | .weapons =>
    ["weight_kg", "length_m", "balance", "moment_of_inertia", "effective_mass",
      "reference_energy_j", "geometry_coeff", "rigidity_coeff"]
  | .techniques => ["axis_geometry_mult", "axis_energy_mult", "axis_rigidity_mult"]
  | .armourMaterials =>
    ["deflection", "absorption", "dispersion", "geometry_threshold", "geometry_ratio",
      "energy_threshold", "energy_ratio", "rigidity_threshold", "rigidity_ratio"]
  | .bodyPlans => ["base_height_cm", "base_mass_kg"]
  | .armourPieces | .tissueTemplates | .species | .combatTests => []

theorem numbersAgree_weapon (r : Record Weapon) :
    NumbersAgree (auditedNumbers .weapons) (weaponEntry r) (weaponRow r) := by
  rw [weaponEntry_eq]
  exact .of_map_text? (of_decide_eq_true rfl) (of_decide_eq_true rfl) rfl rfl

theorem numbersAgree_technique (r : Record Technique) :
    NumbersAgree (auditedNumbers .techniques) (techniqueEntry r) (techniqueRow r) := by
  rw [techniqueEntry_eq]
  refine .of_map_text? (of_decide_eq_true rfl) (of_decide_eq_true rfl) rfl ?_
  have hgeometry := biasMult_eq (fun b hb => (isEmpty_iff.mp hb).1) r.data
  have henergy := biasMult_eq (fun b hb => (isEmpty_iff.mp hb).2.1) r.data
  have hrigidity := biasMult_eq (fun b hb => (isEmpty_iff.mp hb).2.2) r.data
  change [some (float _), some (float _), some (float _)] =
    [some (float (biasMult r.data AxisBias.geometry)),
      some (float (biasMult r.data AxisBias.energy)),
      some (float (biasMult r.data AxisBias.rigidity))]
  rw [hgeometry, henergy, hrigidity]

theorem numbersAgree_armourMaterial (r : Record ArmourMaterial) :
    NumbersAgree (auditedNumbers .armourMaterials) (armourMaterialEntry r)
      (armourMaterialRow r) := by
  rw [armourMaterialEntry_eq]
  obtain ⟨id, name, shielding, susceptibility, form⟩ := r
  -- The row has more names with a form, none of which the audit has.
  cases form with
  | none => exact .of_map_text? (of_decide_eq_true rfl) (of_decide_eq_true rfl) rfl rfl
  | some form => exact .of_map_text? (of_decide_eq_true rfl) (of_decide_eq_true rfl) rfl rfl

theorem numbersAgree_armourPiece (r : Record ArmourPiece) :
    NumbersAgree (auditedNumbers .armourPieces) (armourPieceEntry r) (armourPieceRow r) := by
  rw [armourPieceEntry_eq]
  exact .of_map_text? (of_decide_eq_true rfl) (of_decide_eq_true rfl) rfl rfl

theorem numbersAgree_tissueTemplate (r : Record TissueTemplate) :
    NumbersAgree (auditedNumbers .tissueTemplates) (tissueTemplateEntry r)
      (tissueTemplateRow r) := by
  have hnames : (tissueTemplateRow r).names =
      if r.data.notes.isEmpty then ["id", "layers"] else ["id", "notes", "layers"] := by
    rw [tissueTemplateRow]
    split <;> rfl
  rw [tissueTemplateEntry_eq]
  refine .of_map_text? (of_decide_eq_true rfl) ?_ ?_ rfl
  · rw [hnames]
    split <;> decide
  · rw [hnames]
    split <;> rfl

theorem numbersAgree_bodyPlan (r : Record BodyPlan) :
    NumbersAgree (auditedNumbers .bodyPlans) (bodyPlanEntry r) (bodyPlanRow r) := by
  rw [bodyPlanEntry_eq]
  exact .of_map_text? (of_decide_eq_true rfl) (of_decide_eq_true rfl) rfl rfl

/-- The channels that the audit of a technique lists are those written as true in its row. -/
theorem list_channels (r : Record Technique) :
    ∃ fields, (techniqueRow r).value? "channels" = some (.record fields) ∧
      (techniqueEntry r).list "channels" =
        (fields.filter fun f => f.2.text = "true").map (·.1) := by
  have htrue (b : Bool) : decide ((Literal.boolean b).text = "true") = b := by
    cases b <;> decide
  refine ⟨r.data.channels.named.map fun c => (c.1, .boolean c.2), rfl, ?_⟩
  rw [techniqueEntry_eq, List.filter_map, List.map_map]
  change (r.data.channels.named.filter fun c => c.2).map (·.1) = _
  congr 2
  funext c
  exact (htrue c.2).symm

/-- The audit of a record of content has a row in the table of its dataset, with its id and with
the numbers that it shows. -/
theorem exists_row_of_mem_typedEntries {c : Content} {d : Dataset} {e : Audit.Entry}
    (he : e ∈ typedEntries c d) :
    ∃ row ∈ (tableOf c d).rows, row.text? "id" = written e.id ∧
      NumbersAgree (auditedNumbers d) e row := by
  -- Some tables are sorted, and have the same rows as they would have unsorted.
  have hrow {α : Type} (entryOf : Record α → Audit.Entry) (rowOf : Record α → Row)
      {rs rs' : List (Record α)} (hrs : ∀ r ∈ rs, r ∈ rs') (hentry : ∀ r, (entryOf r).id = r.id)
      (hid : ∀ r, (rowOf r).text? "id" = written r.id)
      (hagree : ∀ r, NumbersAgree (auditedNumbers d) (entryOf r) (rowOf r))
      (he : e ∈ rs.map entryOf) : ∃ row ∈ rs'.map rowOf,
        row.text? "id" = written e.id ∧ NumbersAgree (auditedNumbers d) e row := by
    obtain ⟨r, hr, rfl⟩ := List.mem_map.mp he
    exact ⟨rowOf r, List.mem_map_of_mem (hrs r hr), hentry r ▸ hid r, hagree r⟩
  have hsorted {α : Type} (rs : List (Record α)) : ∀ r ∈ rs, r ∈ sortedBy Record.id rs :=
    fun _ => (mem_sortedBy Record.id).mpr
  cases d with
  | weapons =>
    exact hrow weaponEntry weaponRow (fun _ => id) id_weaponEntry (fun _ => rfl)
      numbersAgree_weapon he
  | techniques =>
    exact hrow techniqueEntry techniqueRow (fun _ => id) id_techniqueEntry (fun _ => rfl)
      numbersAgree_technique he
  | armourMaterials =>
    exact hrow armourMaterialEntry armourMaterialRow (fun _ => id) id_armourMaterialEntry
      (fun _ => rfl) numbersAgree_armourMaterial he
  | armourPieces =>
    exact hrow armourPieceEntry armourPieceRow (fun _ => id) id_armourPieceEntry (fun _ => rfl)
      numbersAgree_armourPiece he
  | tissueTemplates =>
    exact hrow tissueTemplateEntry tissueTemplateRow (hsorted _) id_tissueTemplateEntry
      (fun _ => rfl) numbersAgree_tissueTemplate he
  | bodyPlans =>
    exact hrow bodyPlanEntry bodyPlanRow (hsorted _) id_bodyPlanEntry (fun _ => rfl)
      numbersAgree_bodyPlan he
  | species | combatTests => exact absurd he List.not_mem_nil

/-- The rows of typed records have the numbers that their audits show, and no other number is in
both, so that every number in the audit of content that its tables have is written there under the
record's id. A technique's audit lists the channels that are written as true in its row. -/
theorem numbers_shown_as_written :
    (∀ r, NumbersAgree (auditedNumbers .weapons) (weaponEntry r) (weaponRow r)) ∧
    (∀ r, NumbersAgree (auditedNumbers .techniques) (techniqueEntry r) (techniqueRow r)) ∧
    (∀ r, NumbersAgree (auditedNumbers .armourMaterials) (armourMaterialEntry r)
      (armourMaterialRow r)) ∧
    (∀ r, NumbersAgree (auditedNumbers .armourPieces) (armourPieceEntry r) (armourPieceRow r)) ∧
    (∀ r, NumbersAgree (auditedNumbers .tissueTemplates) (tissueTemplateEntry r)
      (tissueTemplateRow r)) ∧
    (∀ r, NumbersAgree (auditedNumbers .bodyPlans) (bodyPlanEntry r) (bodyPlanRow r)) ∧
    (∀ c d, ∀ e ∈ typedEntries c d, ∃ row ∈ (tableOf c d).rows,
      row.text? "id" = written e.id ∧ NumbersAgree (auditedNumbers d) e row) ∧
    (∀ r, ∃ fields, (techniqueRow r).value? "channels" = some (.record fields) ∧
      (techniqueEntry r).list "channels" =
        (fields.filter fun f => f.2.text = "true").map (·.1)) :=
  ⟨numbersAgree_weapon, numbersAgree_technique, numbersAgree_armourMaterial,
    numbersAgree_armourPiece, numbersAgree_tissueTemplate, numbersAgree_bodyPlan,
    fun _ _ _ => exists_row_of_mem_typedEntries, list_channels⟩

end CombatContent.Zig
