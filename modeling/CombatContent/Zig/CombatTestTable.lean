import CombatContent.Content
import CombatContent.Decimal.Whole
import CombatContent.Zig.Table

/-!
# The table of combat tests

Tests are written in flattened order, which is the order of ids. What is not given is left out, and
counts of layers are cut to whole numbers.
-/

namespace CombatContent.Zig

/-- The types of the table. -/
def combatTestDeclaration : List String := [
  "pub const AttackerSpec = struct \x7b",
  "    species: []const u8 = \"dwarf\",",
  "    weapon_id: []const u8,",
  "    technique_id: []const u8,",
  "    stakes: []const u8 = \"committed\",",
  "    power: ?f32 = null,",
  "    speed: ?f32 = null,",
  "    skill: ?f32 = null,",
  "\x7d;",
  "",
  "pub const DefenderSpec = struct \x7b",
  "    species: []const u8 = \"dwarf\",",
  "    armour_ids: []const []const u8 = &.\x7b\x7d,",
  "    pose: []const u8 = \"balanced\",",
  "    target_part: []const u8 = \"torso\",",
  "\x7d;",
  "",
  "pub const ExpectedOutcome = struct \x7b",
  "    outcome: ?[]const u8 = null,",
  "    damage_dealt_min: ?f32 = null,",
  "    damage_dealt_max: ?f32 = null,",
  "    packet_energy_min: ?f32 = null,",
  "    packet_geometry_min: ?f32 = null,",
  "    armour_deflected: ?bool = null,",
  "    penetrated_layers_min: ?u8 = null,",
  "    penetrated_layers_max: ?u8 = null,",
  "\x7d;",
  "",
  "pub const CombatTestDefinition = struct \x7b",
  "    id: []const u8,",
  "    description: []const u8,",
  "    attacker: AttackerSpec,",
  "    defender: DefenderSpec,",
  "    expected: ExpectedOutcome,",
  "\x7d;"]

/-- The entries of an attacker. -/
def attackerEntries (a : Attacker) : List Entry :=
  [.field "species" (.string a.species),
    .field "weapon_id" (.string a.weaponId),
    .field "technique_id" (.string a.techniqueId),
    .field "stakes" (.string a.stakes)] ++
    givenFields .number
      [("power", a.stats.power), ("speed", a.stats.speed), ("skill", a.stats.skill)]

/-- The entries of a defender. -/
def defenderEntries (d : Defender) : List Entry :=
  [.field "species" (.string d.species),
    .field "armour_ids" (.strings d.armourIds),
    .field "pose" (.string d.pose),
    .field "target_part" (.string d.targetPart)]

/-- The entries of the expectations that are given. -/
def expectationEntries (e : Expectation) : List Entry :=
  givenField "outcome" .string e.outcome ++
    givenFields .number [("damage_dealt_min", e.damageDealtMin),
      ("damage_dealt_max", e.damageDealtMax), ("packet_energy_min", e.packetEnergyMin),
      ("packet_geometry_min", e.packetGeometryMin)] ++
    givenField "armour_deflected" .boolean e.armourDeflected ++
    givenFields (fun x => .integer (Decimal.wholePart x))
      [("penetrated_layers_min", e.penetratedLayersMin),
        ("penetrated_layers_max", e.penetratedLayersMax)]

/-- The row of a combat test. -/
def combatTestRow (r : Record CombatTest) : Row :=
  let t := r.data
  [.field "id" (.string r.id),
    .field "description" (.string t.description),
    .record "attacker" (attackerEntries t.attacker),
    .record "defender" (defenderEntries t.defender),
    .record "expected" (expectationEntries t.expected)]

/-- The table of combat tests. -/
def combatTestTable (rs : List (Record CombatTest)) : Table where
  declaration := combatTestDeclaration
  name := "GeneratedCombatTests"
  rowType := "CombatTestDefinition"
  rows := rs.map combatTestRow

end CombatContent.Zig
