import CombatContent.Audit.Entry
import CombatContent.Content

/-!
# The audit of weapons

A zero among the coefficients, the weight or the length is worth a warning. Nothing is an error.
-/

namespace CombatContent.Audit

/-- The coefficients of a weapon by name. -/
def namedCoefficients (p : WeaponPhysics) : List (String × Float) :=
  [("moment_of_inertia", p.momentOfInertia), ("effective_mass", p.effectiveMass),
    ("reference_energy_j", p.referenceEnergy), ("geometry_coeff", p.geometry),
    ("rigidity_coeff", p.rigidity)]

/-- The weight and the length of a weapon by name. -/
def namedBaseData (w : Weapon) : List (String × Float) :=
  [("weight_kg", w.weight), ("length_m", w.length)]

/-- The names of the numbers that are zero. -/
def zeroNames (numbers : List (String × Float)) : List String :=
  (numbers.filter fun n => n.2 == 0.0).map (·.1)

/-- The fields of the entry of a weapon. -/
def weaponFields (w : Weapon) : List (String × FieldValue) :=
  [("name", .text w.name), ("weight_kg", .number w.weight), ("length_m", .number w.length),
    ("balance", .number w.balance)] ++
  (namedCoefficients w.physics).map fun c => (c.1, .number c.2)

/-- The warnings about the numbers of a weapon that are zero. -/
def zeroWarnings (w : Weapon) : List String :=
  (zeroNames (namedCoefficients w.physics)).map (· ++ " is 0") ++
  (zeroNames (namedBaseData w)).map (· ++ " is 0 (base data)")

/-- The audit of a weapon. -/
def weaponEntry (r : Record Weapon) : Entry :=
  Entry.blank .weapons r.id
    |>.withFields (weaponFields r.data)
    |>.warnAll (zeroWarnings r.data)

theorem weaponEntry_eq (r : Record Weapon) :
    weaponEntry r =
      { dataset := .weapons, id := r.id, fields := weaponFields r.data,
        warnings := zeroWarnings r.data } := by
  rw [weaponEntry, Entry.warnAll_eq, Entry.withFields_eq]
  rfl

@[simp]
theorem id_weaponEntry (r : Record Weapon) : (weaponEntry r).id = r.id := by
  rw [weaponEntry_eq]

end CombatContent.Audit
