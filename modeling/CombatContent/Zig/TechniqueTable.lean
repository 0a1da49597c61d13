import CombatContent.Content
import CombatContent.Zig.Identifier
import CombatContent.Zig.Table
import CombatContent.Zig.Vocabulary

/-!
# The enumeration and the table of techniques

The enumeration has one variant per technique id, in order. The table has the techniques in
flattened order; an axis multiplier that is not given is one.
-/

namespace CombatContent.Zig

/-- The lines of the enumeration of technique ids. -/
def techniqueIdLines (ids : NameSet) : List String :=
  "pub const GeneratedTechniqueID = enum \x7b" ::
    (ids.toList.map (fun id => indented 1 (identifier id ++ ",")) ++ ["\x7d;"])

/-- The enumeration of technique ids. -/
def techniqueIdText (ids : NameSet) : String := Text.unlines (techniqueIdLines ids)

/-- The types of the table. -/
def techniqueDeclaration : List String := [
  "const TechniqueChannels = struct \x7b",
  "    weapon: bool = false,",
  "    off_hand: bool = false,",
  "    footwork: bool = false,",
  "\x7d;",
  "",
  "pub const TechniqueDefinition = struct \x7b",
  "    id: []const u8,",
  "    name: []const u8,",
  "    attack_mode: []const u8,",
  "    target_height: ?body.Height = null,",
  "    secondary_height: ?body.Height = null,",
  "    guard_height: ?body.Height = null,",
  "    covers_adjacent: bool = false,",
  "    difficulty: f32 = 0,",
  "    channels: TechniqueChannels = .\x7b\x7d,",
  "    damage_instances: []const damage.Instance = &.\x7b\x7d,",
  "    scaling: stats.Scaling = .\x7b .ratio = 1.0, .stats = .\x7b .stat = stats.Accessor.power \x7d \x7d,",
  "    deflect_mult: f32 = 1.0,",
  "    parry_mult: f32 = 1.0,",
  "    dodge_mult: f32 = 1.0,",
  "    counter_mult: f32 = 1.0,",
  "    overlay_offensive_to_hit_bonus: f32 = 0,",
  "    overlay_offensive_damage_mult: f32 = 1,",
  "    overlay_defensive_defense_bonus: f32 = 0,",
  "    axis_geometry_mult: f32 = 1,",
  "    axis_energy_mult: f32 = 1,",
  "    axis_rigidity_mult: f32 = 1,",
  "\x7d;"]

/-- The literal of a packet of damage. -/
def damageInstance (d : DamageInstance) : Literal :=
  .record [("amount", .number d.amount), ("types", damageTypes d.types)]

/-- The row of a technique. -/
def techniqueRow (r : Record Technique) : Row :=
  let t := r.data
  let bias := t.axisBias.getD {}
  [.field "id" (.string r.id),
    .field "name" (.string t.name),
    .field "attack_mode" (.string t.attackMode),
    .field "target_height" (height t.targetHeight),
    .field "secondary_height" (height t.secondaryHeight),
    .field "guard_height" (height t.guardHeight),
    .field "covers_adjacent" (.boolean t.coversAdjacent),
    .field "difficulty" (.number t.difficulty),
    .field "channels" (.record (t.channels.named.map fun c => (c.1, .boolean c.2))),
    .slice "damage_instances" (t.damage.instances.map fun d => .item (damageInstance d)),
    .field "scaling" (scaling t.damage.scaling),
    .field "deflect_mult" (.number t.deflectMult),
    .field "parry_mult" (.number t.parryMult),
    .field "dodge_mult" (.number t.dodgeMult),
    .field "counter_mult" (.number t.counterMult),
    .field "overlay_offensive_to_hit_bonus" (.number t.overlay.offensive.toHitBonus),
    .field "overlay_offensive_damage_mult" (.number t.overlay.offensive.damageMult),
    .field "overlay_defensive_defense_bonus" (.number t.overlay.defensive.defenseBonus),
    .field "axis_geometry_mult" (.number (bias.geometry.getD 1.0)),
    .field "axis_energy_mult" (.number (bias.energy.getD 1.0)),
    .field "axis_rigidity_mult" (.number (bias.rigidity.getD 1.0))]

/-- The table of techniques. -/
def techniqueTable (rs : List (Record Technique)) : Table where
  declaration := techniqueDeclaration
  name := "GeneratedTechniques"
  rowType := "TechniqueDefinition"
  rows := rs.map techniqueRow

end CombatContent.Zig
