import CombatContent.Content
import CombatContent.Zig.Table
import CombatContent.Zig.Vocabulary

/-!
# The table of species

Species are sorted by id. A species without a name is named by its id, and numbers that are not
given are left to the declared defaults.
-/

namespace CombatContent.Zig

/-- The types of the table. -/
def speciesDeclaration : List String := [
  "pub const NaturalWeaponRef = struct \x7b",
  "    weapon_id: []const u8,",
  "    required_part: body.PartTag,",
  "\x7d;",
  "",
  "pub const SpeciesDefinition = struct \x7b",
  "    id: []const u8,",
  "    name: []const u8,",
  "    body_plan: []const u8,",
  "    base_blood: f32,",
  "    base_stamina: f32,",
  "    base_focus: f32,",
  "    stamina_recovery: ?f32 = null,",
  "    focus_recovery: ?f32 = null,",
  "    blood_recovery: ?f32 = null,",
  "    size_height: f32 = 1.0,",
  "    size_mass: f32 = 1.0,",
  "    tags: []const []const u8 = &.\x7b\x7d,",
  "    natural_weapons: []const NaturalWeaponRef = &.\x7b\x7d,",
  "\x7d;"]

/-- The literal of a natural weapon. -/
def naturalWeapon (n : NaturalWeapon) : Literal :=
  .record [("weapon_id", .string n.weaponId), ("required_part", partTag n.requiredPart)]

/-- The numbers of a species that may be left open. -/
def openNumbers (s : Species) : List (String × Option Float) :=
  [("stamina_recovery", s.staminaRecovery), ("focus_recovery", s.focusRecovery),
    ("blood_recovery", s.bloodRecovery), ("size_height", s.size.height),
    ("size_mass", s.size.mass)]

/-- The row of a species. -/
def speciesRow (r : Record Species) : Row :=
  let s := r.data
  [.field "id" (.string r.id),
    .field "name" (.string (s.name.getD r.id)),
    .field "body_plan" (.string s.bodyPlan),
    .field "base_blood" (.number s.baseBlood),
    .field "base_stamina" (.number s.baseStamina),
    .field "base_focus" (.number s.baseFocus)] ++
    givenFields .number (openNumbers s) ++
    [.field "tags" (.strings s.tags),
      .slice "natural_weapons" (s.naturalWeapons.map fun n => .item (naturalWeapon n))]

/-- The table of species. -/
def speciesTable (rs : List (Record Species)) : Table where
  declaration := speciesDeclaration
  name := "GeneratedSpecies"
  rowType := "SpeciesDefinition"
  rows := (sortedBy Record.id rs).map speciesRow

end CombatContent.Zig
