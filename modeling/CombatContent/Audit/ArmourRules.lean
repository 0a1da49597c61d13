import CombatContent.Audit.Entry
import CombatContent.Audit.Policy
import CombatContent.Content
import CombatContent.Decimal.Fixed

/-!
# The audit of armour

A material that shields too much, or takes something off every hit on an axis, is worth a warning.
A piece without a material or without coverage is an error, and coverage without part tags is worth
a warning. A piece refers to its material.
-/

namespace CombatContent.Audit

/-- The threshold of a material on an axis; zero if it is not given. -/
def thresholdOn (s : Susceptibility) (axis : Axis) : Float := (s.on axis).threshold.getD 0.0

/-- The ratio of a material on an axis; one if it is not given. -/
def ratioOn (s : Susceptibility) (axis : Axis) : Float := (s.on axis).ratio.getD 1.0

/-- The fields of a material's susceptibility. -/
def susceptibilityFields (s : Susceptibility) : List (String × FieldValue) :=
  Axis.all.flatMap fun axis =>
    [(axis.name ++ "_threshold", .number (thresholdOn s axis)),
      (axis.name ++ "_ratio", .number (ratioOn s axis))]

/-- The warning about a material that shields too much. -/
def shieldingWarnings (s : Shielding) : List String :=
  if exceeds s.sum maxShieldingSum then
    ["Shielding coefficients sum to " ++ Decimal.fixed 2 s.sum ++
      " (deflection+absorption+dispersion > " ++ Decimal.text maxShieldingSum ++ ")"]
  else []

/-- Whether a material takes something off every hit on an axis. -/
def reducesEveryHit (s : Susceptibility) (axis : Axis) : Bool :=
  thresholdOn s axis == 0.0 && ratioOn s axis < ratioFloor

/-- The warnings about axes on which something is taken off every hit. -/
def reductionWarnings (s : Susceptibility) : List String :=
  (Axis.all.filter (reducesEveryHit s)).map fun axis =>
    axis.name ++ "_threshold=0 with " ++ axis.name ++ "_ratio=" ++
      Decimal.fixed 2 (ratioOn s axis) ++ " means all damage is reduced"

/-- The fields of the entry of an armour material. -/
def armourMaterialFields (m : ArmourMaterial) : List (String × FieldValue) :=
  [("name", .text m.name), ("deflection", .number m.shielding.deflection),
    ("absorption", .number m.shielding.absorption),
    ("dispersion", .number m.shielding.dispersion)] ++
  susceptibilityFields m.susceptibility

/-- The audit of an armour material. -/
def armourMaterialEntry (r : Record ArmourMaterial) : Entry :=
  Entry.blank .armourMaterials r.id
    |>.withFields (armourMaterialFields r.data)
    |>.warnAll (shieldingWarnings r.data.shielding)
    |>.warnAll (reductionWarnings r.data.susceptibility)

theorem armourMaterialEntry_eq (r : Record ArmourMaterial) :
    armourMaterialEntry r =
      { dataset := .armourMaterials, id := r.id, fields := armourMaterialFields r.data,
        warnings := shieldingWarnings r.data.shielding ++
          reductionWarnings r.data.susceptibility } := by
  rw [armourMaterialEntry, Entry.warnAll_eq, Entry.warnAll_eq, Entry.withFields_eq]
  rfl

@[simp]
theorem id_armourMaterialEntry (r : Record ArmourMaterial) : (armourMaterialEntry r).id = r.id := by
  rw [armourMaterialEntry_eq]

/-- The warnings about coverage without part tags, counted from zero. -/
def coverageWarnings (cs : List Coverage) : List String :=
  (cs.zipIdx.filter fun c => c.1.partTags.isEmpty).map fun c =>
    "Coverage entry " ++ toString c.2 ++ " has no part_tags"

/-- The error about coverage that is not given. -/
def coverageErrors (cs : List Coverage) : List String :=
  if cs.isEmpty then ["No coverage entries defined"] else []

/-- The fields of the entry of an armour piece. -/
def armourPieceFields (p : ArmourPiece) : List (String × FieldValue) :=
  [("name", .text (p.name.getD "")), ("material_id", .text p.material),
    ("coverage_count", .count p.coverage.length)]

/-- Refers to a material, or reports that there is none to refer to. -/
def Entry.referToMaterial (e : Entry) (material : String) : Entry :=
  if material.isEmpty then e.error "No material specified"
  else e.refer (.record .armourMaterials) material

/-- The audit of an armour piece. -/
def armourPieceEntry (r : Record ArmourPiece) : Entry :=
  Entry.blank .armourPieces r.id
    |>.withFields (armourPieceFields r.data)
    |>.referToMaterial r.data.material
    |>.errorAll (coverageErrors r.data.coverage)
    |>.warnAll (coverageWarnings r.data.coverage)

theorem armourPieceEntry_eq (r : Record ArmourPiece) :
    armourPieceEntry r =
      { dataset := .armourPieces, id := r.id, fields := armourPieceFields r.data,
        references :=
          if r.data.material.isEmpty then []
          else [⟨.record .armourMaterials, r.data.material⟩],
        warnings := coverageWarnings r.data.coverage,
        errors :=
          (if r.data.material.isEmpty then ["No material specified"] else []) ++
            coverageErrors r.data.coverage } := by
  rw [armourPieceEntry, Entry.warnAll_eq, Entry.errorAll_eq, Entry.withFields_eq,
    Entry.referToMaterial]
  split <;> rfl

@[simp]
theorem id_armourPieceEntry (r : Record ArmourPiece) : (armourPieceEntry r).id = r.id := by
  rw [armourPieceEntry_eq]

end CombatContent.Audit
