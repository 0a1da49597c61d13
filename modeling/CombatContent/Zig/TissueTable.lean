import CombatContent.Content
import CombatContent.Zig.Table

/-!
# The table of tissue templates

Templates are sorted by id. Thresholds and ratios of a layer that are not given are zero, and empty
notes are left out.
-/

namespace CombatContent.Zig

/-- The types of the table. -/
def tissueDeclaration : List String := [
  "pub const TissueLayerDefinition = struct \x7b",
  "    material_id: []const u8,",
  "    thickness_ratio: f32,",
  "    deflection: f32,",
  "    absorption: f32,",
  "    dispersion: f32,",
  "    geometry_threshold: f32,",
  "    geometry_ratio: f32,",
  "    energy_threshold: f32,",
  "    energy_ratio: f32,",
  "    rigidity_threshold: f32,",
  "    rigidity_ratio: f32,",
  "\x7d;",
  "",
  "pub const TissueTemplateDefinition = struct \x7b",
  "    id: []const u8,",
  "    notes: []const u8 = \"\",",
  "    layers: []const TissueLayerDefinition,",
  "\x7d;"]

/-- The row of a layer. -/
def tissueLayerRow (l : TissueLayer) : Row :=
  let shielding := l.material.shielding
  let s := l.material.susceptibility
  [.field "material_id" (.string l.materialId),
    .field "thickness_ratio" (.number l.thicknessRatio),
    .field "deflection" (.number shielding.deflection),
    .field "absorption" (.number shielding.absorption),
    .field "dispersion" (.number shielding.dispersion),
    .field "geometry_threshold" (.number (s.geometry.threshold.getD 0.0)),
    .field "geometry_ratio" (.number (s.geometry.ratio.getD 0.0)),
    .field "energy_threshold" (.number (s.energy.threshold.getD 0.0)),
    .field "energy_ratio" (.number (s.energy.ratio.getD 0.0)),
    .field "rigidity_threshold" (.number (s.rigidity.threshold.getD 0.0)),
    .field "rigidity_ratio" (.number (s.rigidity.ratio.getD 0.0))]

/-- The row of a tissue template. -/
def tissueTemplateRow (r : Record TissueTemplate) : Row :=
  let t := r.data
  [.field "id" (.string r.id)] ++
    (if t.notes.isEmpty then [] else [.field "notes" (.string t.notes)]) ++
    [.slice "layers" (t.layers.map fun l => .row (tissueLayerRow l))]

/-- The table of tissue templates. -/
def tissueTable (rs : List (Record TissueTemplate)) : Table where
  declaration := tissueDeclaration
  name := "GeneratedTissueTemplates"
  rowType := "TissueTemplateDefinition"
  rows := (sortedBy Record.id rs).map tissueTemplateRow

end CombatContent.Zig
