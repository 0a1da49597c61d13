import CombatContent.Content
import CombatContent.Zig.Table

/-!
# The table of weapons

Weapons are written in flattened order. A weapon without a category is of category `unknown`.
-/

namespace CombatContent.Zig

/-- The types of the table. -/
def weaponDeclaration : List String := [
  "const WeaponDefinition = struct \x7b",
  "    id: []const u8,",
  "    name: []const u8,",
  "    category: []const u8,",
  "    weight_kg: f32,",
  "    length_m: f32,",
  "    balance: f32,",
  "    swing: bool,",
  "    thrust: bool,",
  "    moment_of_inertia: f32 = 0,",
  "    effective_mass: f32 = 0,",
  "    reference_energy_j: f32 = 0,",
  "    geometry_coeff: f32 = 0,",
  "    rigidity_coeff: f32 = 0,",
  "\x7d;"]

/-- The row of a weapon. -/
def weaponRow (r : Record Weapon) : Row :=
  let w := r.data
  [.field "id" (.string r.id),
    .field "name" (.string w.name),
    .field "category" (.string (w.category.getD "unknown")),
    .field "weight_kg" (.number w.weight),
    .field "length_m" (.number w.length),
    .field "balance" (.number w.balance),
    .field "swing" (.boolean w.swing),
    .field "thrust" (.boolean w.thrust),
    .field "moment_of_inertia" (.number w.physics.momentOfInertia),
    .field "effective_mass" (.number w.physics.effectiveMass),
    .field "reference_energy_j" (.number w.physics.referenceEnergy),
    .field "geometry_coeff" (.number w.physics.geometry),
    .field "rigidity_coeff" (.number w.physics.rigidity)]

/-- The table of weapons. -/
def weaponTable (rs : List (Record Weapon)) : Table where
  declaration := weaponDeclaration
  name := "GeneratedWeapons"
  rowType := "WeaponDefinition"
  rows := rs.map weaponRow

end CombatContent.Zig
