import CombatContent.Content
import CombatContent.PartOrder
import CombatContent.Zig.Table
import CombatContent.Zig.Vocabulary

/-!
# The table of body plans

Plans are sorted by id and their parts are in part order. A plan without a name is named by its id.
A part that gives no tissue template has that of a limb; parents, enclosing parts and a major
artery are written only where given.
-/

namespace CombatContent.Zig

/-- The types of the table. -/
def bodyPlanDeclaration : List String := [
  "pub const BodyPartGeometry = struct \x7b",
  "    thickness_cm: f32,",
  "    length_cm: f32,",
  "    area_cm2: f32,",
  "\x7d;",
  "",
  "pub const BodyPartDefinition = struct \x7b",
  "    name: []const u8,",
  "    tag: body.PartTag,",
  "    side: body.Side = body.Side.center,",
  "    parent: ?[]const u8 = null,",
  "    enclosing: ?[]const u8 = null,",
  "    tissue_template_id: []const u8,",
  "    has_major_artery: bool = false,",
  "    flags: body.PartDef.Flags = .\x7b\x7d,",
  "    geometry: BodyPartGeometry,",
  "\x7d;",
  "",
  "pub const BodyPlanDefinition = struct \x7b",
  "    id: []const u8,",
  "    name: []const u8,",
  "    base_height_cm: f32,",
  "    base_mass_kg: f32,",
  "    parts: []const BodyPartDefinition,",
  "\x7d;"]

/-- The tissue template of a part that gives none. -/
def fallbackTemplate : String := "limb"

/-- The tissue template that is written for a part. -/
def writtenTemplate (p : BodyPart) : String := p.tissueTemplate.getD fallbackTemplate

/-- The row of a part. -/
def bodyPartRow (name : String) (p : BodyPart) : Row :=
  let g := p.geometry.getD {}
  [.field "name" (.string name),
    .field "tag" (partTag p.tag),
    .field "side" (side p.side)] ++
    givenField "parent" .string p.parent ++
    givenField "enclosing" .string p.enclosing ++
    [.field "tissue_template_id" (.string (writtenTemplate p))] ++
    (if p.hasMajorArtery then [.field "has_major_artery" (.boolean true)] else []) ++
    [.field "flags" (partFlags p.flags),
      .field "geometry" (.record [("thickness_cm", .number g.thickness),
        ("length_cm", .number g.length), ("area_cm2", .number g.area)])]

/-- The parts of a plan in the order of its row. -/
def orderedParts (p : BodyPlan) : List (String × BodyPart) :=
  PartOrder.order BodyPart.parent p.parts

/-- The row of a body plan. -/
def bodyPlanRow (r : Record BodyPlan) : Row :=
  let p := r.data
  [.field "id" (.string r.id),
    .field "name" (.string (p.name.getD r.id)),
    .field "base_height_cm" (.number p.baseHeight),
    .field "base_mass_kg" (.number p.baseMass),
    .slice "parts" ((orderedParts p).map fun part => .row (bodyPartRow part.1 part.2))]

theorem entries?_bodyPlanRow (r : Record BodyPlan) :
    (bodyPlanRow r).entries? "parts" =
      some ((orderedParts r.data).map fun part => .row (bodyPartRow part.1 part.2)) := rfl

/-- The table of body plans. -/
def bodyPlanTable (rs : List (Record BodyPlan)) : Table where
  declaration := bodyPlanDeclaration
  name := "GeneratedBodyPlans"
  rowType := "BodyPlanDefinition"
  rows := (sortedBy Record.id rs).map bodyPlanRow

end CombatContent.Zig
