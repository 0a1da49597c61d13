import CombatContent.Content
import CombatContent.Zig.Table
import CombatContent.Zig.Vocabulary

/-!
# The tables of armour materials and armour pieces

Both are written in flattened order, which is the order of ids. Thresholds of a material that are
not given are zero and ratios are one; its form is written only if there is one. A piece without a
name is named by its id.
-/

namespace CombatContent.Zig

/-- The types of the table of materials. -/
def armourMaterialDeclaration : List String := [
  "pub const ArmourMaterialDefinition = struct \x7b",
  "    id: []const u8,",
  "    name: []const u8,",
  "    deflection: f32,",
  "    absorption: f32,",
  "    dispersion: f32,",
  "    geometry_threshold: f32,",
  "    geometry_ratio: f32,",
  "    energy_threshold: f32,",
  "    energy_ratio: f32,",
  "    rigidity_threshold: f32,",
  "    rigidity_ratio: f32,",
  "    shape_profile: []const u8 = \"solid\",",
  "    shape_dispersion_bonus: f32 = 0,",
  "    shape_absorption_bonus: f32 = 0,",
  "\x7d;"]

/-- The row of an armour material. -/
def armourMaterialRow (r : Record ArmourMaterial) : Row :=
  let m := r.data
  let s := m.susceptibility
  [.field "id" (.string r.id),
    .field "name" (.string m.name),
    .field "deflection" (.number m.shielding.deflection),
    .field "absorption" (.number m.shielding.absorption),
    .field "dispersion" (.number m.shielding.dispersion),
    .field "geometry_threshold" (.number (s.geometry.threshold.getD 0.0)),
    .field "geometry_ratio" (.number (s.geometry.ratio.getD 1.0)),
    .field "energy_threshold" (.number (s.energy.threshold.getD 0.0)),
    .field "energy_ratio" (.number (s.energy.ratio.getD 1.0)),
    .field "rigidity_threshold" (.number (s.rigidity.threshold.getD 0.0)),
    .field "rigidity_ratio" (.number (s.rigidity.ratio.getD 1.0))] ++
    match m.form with
    | some f =>
      [.field "shape_profile" (.string f.profile),
        .field "shape_dispersion_bonus" (.number f.dispersionBonus),
        .field "shape_absorption_bonus" (.number f.absorptionBonus)]
    | none => []

/-- The table of armour materials. -/
def armourMaterialTable (rs : List (Record ArmourMaterial)) : Table where
  declaration := armourMaterialDeclaration
  name := "GeneratedArmourMaterials"
  rowType := "ArmourMaterialDefinition"
  rows := rs.map armourMaterialRow

/-- The types of the table of pieces. -/
def armourPieceDeclaration : List String := [
  "pub const ArmourCoverageEntry = struct \x7b",
  "    part_tags: []const body.PartTag,",
  "    side: body.Side = body.Side.center,",
  "    layer: inventory.Layer,",
  "    totality: armour.Totality,",
  "\x7d;",
  "",
  "pub const ArmourPieceDefinition = struct \x7b",
  "    id: []const u8,",
  "    name: []const u8,",
  "    material_id: []const u8,",
  "    coverage: []const ArmourCoverageEntry,",
  "\x7d;"]

/-- The row of coverage. -/
def coverageRow (c : Coverage) : Row :=
  [.field "part_tags" (.slice (c.partTags.map partTag)),
    .field "side" (side c.side),
    .field "layer" (armourLayer c.layer),
    .field "totality" (totality c.totality)]

/-- The row of an armour piece. -/
def armourPieceRow (r : Record ArmourPiece) : Row :=
  let p := r.data
  [.field "id" (.string r.id),
    .field "name" (.string (p.name.getD r.id)),
    .field "material_id" (.string p.material),
    .slice "coverage" (p.coverage.map fun c => .row (coverageRow c))]

/-- The table of armour pieces. -/
def armourPieceTable (rs : List (Record ArmourPiece)) : Table where
  declaration := armourPieceDeclaration
  name := "GeneratedArmourPieces"
  rowType := "ArmourPieceDefinition"
  rows := rs.map armourPieceRow

end CombatContent.Zig
