import CombatContent.Proofs.Decimal.Truncation
import CombatContent.Proofs.Zig.Alike

/-!
# Rows read back

The text of a table of weapons, of armour materials or of combat tests tells what its records say:
their strings as they are, their numbers as they are written, what counts of layers are truncated
to, and what is given at all. No string can be taken for a field, for the end of a row, or for
another row.

## Main definitions

* `SameWeapon`, `SameMaterial`, `SameTest`: records that say the same in their rows.

## Main results

* `Zig.table_text_eq_iff`: tables with the same text are those of records that say the same.
-/

namespace CombatContent

open Decimal (truncated)
open Zig (float)

/-! ### Records that say the same -/

/-- Weapons with the same strings and truth values, and numbers that are written alike. -/
@[mk_iff]
structure SameWeapon (a b : Record Weapon) : Prop where
  id : a.id = b.id
  name : a.data.name = b.data.name
  category : a.data.category.getD "unknown" = b.data.category.getD "unknown"
  weight : float a.data.weight = float b.data.weight
  length : float a.data.length = float b.data.length
  balance : float a.data.balance = float b.data.balance
  swing : a.data.swing = b.data.swing
  thrust : a.data.thrust = b.data.thrust
  momentOfInertia : float a.data.physics.momentOfInertia = float b.data.physics.momentOfInertia
  effectiveMass : float a.data.physics.effectiveMass = float b.data.physics.effectiveMass
  referenceEnergy : float a.data.physics.referenceEnergy = float b.data.physics.referenceEnergy
  geometry : float a.data.physics.geometry = float b.data.physics.geometry
  rigidity : float a.data.physics.rigidity = float b.data.physics.rigidity

/-- Shielding coefficients that are written alike. -/
@[mk_iff]
structure SameShielding (a b : Shielding) : Prop where
  deflection : float a.deflection = float b.deflection
  absorption : float a.absorption = float b.absorption
  dispersion : float a.dispersion = float b.dispersion

/-- Susceptibilities on an axis that are written alike. A threshold that is not given is zero, and a
ratio one. -/
@[mk_iff]
structure SameSusceptibility (a b : AxisSusceptibility) : Prop where
  threshold : float (a.threshold.getD 0.0) = float (b.threshold.getD 0.0)
  ratio : float (a.ratio.getD 1.0) = float (b.ratio.getD 1.0)

/-- Forms with the same profile, and bonuses that are written alike. -/
@[mk_iff]
structure SameForm (a b : MaterialForm) : Prop where
  profile : a.profile = b.profile
  dispersionBonus : float a.dispersionBonus = float b.dispersionBonus
  absorptionBonus : float a.absorptionBonus = float b.absorptionBonus

/-- Armour materials with the same strings, and numbers that are written alike; both have a form, or
neither. -/
@[mk_iff]
structure SameMaterial (a b : Record ArmourMaterial) : Prop where
  id : a.id = b.id
  name : a.data.name = b.data.name
  shielding : SameShielding a.data.shielding b.data.shielding
  susceptibility : ∀ axis,
    SameSusceptibility (a.data.susceptibility.on axis) (b.data.susceptibility.on axis)
  form : Option.Rel SameForm a.data.form b.data.form

/-- Attackers with the same strings; the same stats are given, and they are written alike. -/
@[mk_iff]
structure SameAttacker (a b : Attacker) : Prop where
  species : a.species = b.species
  weaponId : a.weaponId = b.weaponId
  techniqueId : a.techniqueId = b.techniqueId
  stakes : a.stakes = b.stakes
  power : a.stats.power.map float = b.stats.power.map float
  speed : a.stats.speed.map float = b.stats.speed.map float
  skill : a.stats.skill.map float = b.stats.skill.map float

/-- Defenders with the same strings. -/
@[mk_iff]
structure SameDefender (a b : Defender) : Prop where
  species : a.species = b.species
  armourIds : a.armourIds = b.armourIds
  pose : a.pose = b.pose
  targetPart : a.targetPart = b.targetPart

/-- The same is expected, with numbers that are written alike. Of a count of layers it matters only
what it is truncated to. -/
@[mk_iff]
structure SameExpectation (a b : Expectation) : Prop where
  outcome : a.outcome = b.outcome
  damageDealtMin : a.damageDealtMin.map float = b.damageDealtMin.map float
  damageDealtMax : a.damageDealtMax.map float = b.damageDealtMax.map float
  packetEnergyMin : a.packetEnergyMin.map float = b.packetEnergyMin.map float
  packetGeometryMin : a.packetGeometryMin.map float = b.packetGeometryMin.map float
  armourDeflected : a.armourDeflected = b.armourDeflected
  penetratedLayersMin : a.penetratedLayersMin.map truncated = b.penetratedLayersMin.map truncated
  penetratedLayersMax : a.penetratedLayersMax.map truncated = b.penetratedLayersMax.map truncated

/-- Combat tests that say the same of both sides and of what is expected. -/
@[mk_iff]
structure SameTest (a b : Record CombatTest) : Prop where
  id : a.id = b.id
  description : a.data.description = b.data.description
  attacker : SameAttacker a.data.attacker b.data.attacker
  defender : SameDefender a.data.defender b.data.defender
  expected : SameExpectation a.data.expected b.data.expected

namespace Zig

open Entry (Alike)

/-! ### Texts of values -/

theorem boolean_injective : Function.Injective boolean := by
  intro b c
  cases b <;> cases c <;> decide

/-- The rest of a slice of strings after one of them. -/
def sliceTail : List String → List Char
  | [] => [' ', '}']
  | s :: ss => ',' :: ' ' :: ((quoted s).toList ++ sliceTail ss)

theorem toList_text_strings_cons (s : String) (ss : List String) :
    (Literal.strings (s :: ss)).text.toList =
      '&' :: '.' :: '{' :: ' ' :: ((quoted s).toList ++ sliceTail ss) := by
  have htail : (", ".intercalate ((s :: ss).map quoted)).toList ++ [' ', '}'] =
      (quoted s).toList ++ sliceTail ss := by
    induction ss generalizing s with
    | nil => simp [sliceTail]
    | cons s' ss ih =>
      rw [sliceTail, ← ih s', List.map_cons, List.map_cons, String.intercalate_cons_cons]
      simp
  have htexts : Literal.texts ((s :: ss).map Literal.string) = (s :: ss).map quoted := by
    rw [Literal.texts_eq_map, List.map_map]
    rfl
  rw [Literal.strings, Literal.text, htexts, sliceOf, braced, ← htail]
  simp

theorem sliceTail_injective : Function.Injective sliceTail := by
  intro ss
  induction ss with
  | nil =>
    rintro (_ | ⟨t, ts⟩) h
    · rfl
    · exact absurd (List.cons.inj h).1 (by decide)
  | cons s ss ih =>
    rintro (_ | ⟨t, ts⟩) h
    · exact absurd (List.cons.inj h).1 (by decide)
    · obtain ⟨rfl, hrest⟩ := quoted_append_inj (List.cons.inj (List.cons.inj h).2).2
      rw [ih hrest]

/-- A list of strings is read back from its slice. -/
theorem text_strings_injective : Function.Injective fun ss => (Literal.strings ss).text := by
  have hempty (s : String) (ss : List String) :
      (Literal.strings []).text ≠ (Literal.strings (s :: ss)).text := by
    intro h
    have hchars := congrArg String.toList h
    rw [toList_text_strings_cons] at hchars
    exact absurd hchars (by simp [Literal.strings, Literal.text, Literal.texts, sliceOf, braced])
  rintro (_ | ⟨s, ss⟩) (_ | ⟨t, ts⟩) h
  · rfl
  · exact absurd h (hempty t ts)
  · exact absurd h.symm (hempty s ss)
  · have hchars := congrArg String.toList h
    simp only [toList_text_strings_cons, List.cons.injEq, true_and] at hchars
    obtain ⟨rfl, htail⟩ := quoted_append_inj hchars
    rw [sliceTail_injective htail]

/-! ### Fields that may be left out -/

variable {α : Type} {name : String} {f : α → Literal} {x y : Option α} {row row' : Row}

theorem alike_givenField_iff :
    List.Forall₂ Alike (givenField name f x) (givenField name f y) ↔
      (x.map fun a => (f a).text) = y.map fun a => (f a).text := by
  cases x <;> cases y <;> simp [givenField]

/-- A field that may be left out is told from the fields after it, if none of them has its name. -/
theorem alike_givenField_append_iff (hrow : Row.value? row name = none)
    (hrow' : Row.value? row' name = none) :
    List.Forall₂ Alike (givenField name f x ++ row) (givenField name f y ++ row') ↔
      ((x.map fun a => (f a).text) = y.map fun a => (f a).text) ∧ List.Forall₂ Alike row row' := by
  rcases x with _ | a <;> rcases y with _ | b
  · simp [givenField]
  · refine iff_of_false (fun h => ?_) (by simp)
    cases h with
    | cons he _ =>
      cases he
      simp [Row.value?] at hrow
  · refine iff_of_false (fun h => ?_) (by simp)
    cases h with
    | cons he _ =>
      cases he
      simp [Row.value?] at hrow'
  · simp [givenField]

theorem value?_append : Row.value? (row ++ row') name = (row.value? name).or (row'.value? name) :=
  List.findSome?_append

theorem value?_givenField_of_ne {name' : String} (h : name' ≠ name) :
    Row.value? (givenField name' f x) name = none := by
  cases x <;> simp [givenField, Row.value?, h]

/-! ### Rows -/

theorem alike_weaponRow_iff {a b : Record Weapon} :
    List.Forall₂ Alike (weaponRow a) (weaponRow b) ↔ SameWeapon a b := by
  simp [weaponRow, sameWeapon_iff, Literal.text, quoted_injective.eq_iff, boolean_injective.eq_iff]

theorem forall_axis_iff {p : Axis → Prop} :
    (∀ axis, p axis) ↔ p .geometry ∧ p .energy ∧ p .rigidity := by
  constructor
  · exact fun h => ⟨h _, h _, h _⟩
  · rintro ⟨hgeometry, henergy, hrigidity⟩ axis
    cases axis <;> assumption

theorem alike_armourMaterialRow_iff {a b : Record ArmourMaterial} :
    List.Forall₂ Alike (armourMaterialRow a) (armourMaterialRow b) ↔ SameMaterial a b := by
  rw [sameMaterial_iff, forall_axis_iff]
  rcases hform : a.data.form with _ | form <;> rcases hform' : b.data.form with _ | form' <;>
    simp [armourMaterialRow, hform, hform', sameShielding_iff, sameForm_iff,
      sameSusceptibility_iff, Susceptibility.on, Literal.text, quoted_injective.eq_iff, and_assoc]

theorem alike_attackerEntries_iff {a b : Attacker} :
    List.Forall₂ Alike (attackerEntries a) (attackerEntries b) ↔ SameAttacker a b := by
  simp [attackerEntries, sameAttacker_iff, Literal.text, quoted_injective.eq_iff, givenFields,
    alike_givenField_append_iff, alike_givenField_iff, value?_append, value?_givenField_of_ne]

theorem alike_defenderEntries_iff {a b : Defender} :
    List.Forall₂ Alike (defenderEntries a) (defenderEntries b) ↔ SameDefender a b := by
  simp [defenderEntries, sameDefender_iff, Literal.text, quoted_injective.eq_iff,
    text_strings_injective.eq_iff]

theorem alike_expectationEntries_iff {a b : Expectation} :
    List.Forall₂ Alike (expectationEntries a) (expectationEntries b) ↔ SameExpectation a b := by
  have hstrings {x y : Option String} : x.map quoted = y.map quoted ↔ x = y :=
    (Option.map_injective quoted_injective).eq_iff
  have hbooleans {x y : Option Bool} : x.map boolean = y.map boolean ↔ x = y :=
    (Option.map_injective boolean_injective).eq_iff
  have hlayers {x y : Option Float} :
      (x.map fun a => (truncated a).repr) = (y.map fun a => (truncated a).repr) ↔
        x.map truncated = y.map truncated := by
    rw [← (Option.map_injective Decimal.int_repr_injective).eq_iff, Option.map_map,
      Option.map_map]
    rfl
  simp [expectationEntries, sameExpectation_iff, Literal.text, givenFields,
    alike_givenField_append_iff, alike_givenField_iff, value?_append, value?_givenField_of_ne,
    hstrings, hbooleans, Decimal.wholePart_eq_truncated, hlayers]

theorem alike_combatTestRow_iff {a b : Record CombatTest} :
    List.Forall₂ Alike (combatTestRow a) (combatTestRow b) ↔ SameTest a b := by
  simp [combatTestRow, sameTest_iff, Literal.text, quoted_injective.eq_iff,
    alike_attackerEntries_iff, alike_defenderEntries_iff, alike_expectationEntries_iff]

/-! ### Tables -/

/-- Tables have the same text just if their records say the same, row by row. -/
theorem table_text_eq_iff :
    (∀ A B : List (Record Weapon),
      (weaponTable A).text = (weaponTable B).text ↔ List.Forall₂ SameWeapon A B) ∧
    (∀ A B : List (Record ArmourMaterial),
      (armourMaterialTable A).text = (armourMaterialTable B).text ↔
        List.Forall₂ SameMaterial A B) ∧
    ∀ A B : List (Record CombatTest),
      (combatTestTable A).text = (combatTestTable B).text ↔ List.Forall₂ SameTest A B := by
  have hrows {α : Type} {row : Record α → Row} {same : Record α → Record α → Prop}
      (h : ∀ a b, List.Forall₂ Alike (row a) (row b) ↔ same a b) (A B : List (Record α)) :
      List.Forall₂ (List.Forall₂ Alike) (A.map row) (B.map row) ↔ List.Forall₂ same A B := by
    simp only [List.forall₂_map_left_iff, List.forall₂_map_right_iff, h]
  -- The rows of these tables have no members, so that their words have every property.
  have hweapons (A : List (Record Weapon)) : (weaponTable A).IsTidy fun _ => False :=
    (isTidy_tableOf_iff (c := { weapons := A }) (d := .weapons)).mpr
      (List.forall_mem_map.mpr fun r _ => isTidy_weaponRow r)
  have hmaterials (A : List (Record ArmourMaterial)) :
      (armourMaterialTable A).IsTidy fun _ => False :=
    (isTidy_tableOf_iff (c := { armourMaterials := A }) (d := .armourMaterials)).mpr
      (List.forall_mem_map.mpr fun r _ => isTidy_armourMaterialRow r)
  have htests (A : List (Record CombatTest)) : (combatTestTable A).IsTidy fun _ => False :=
    (isTidy_tableOf_iff (c := { combatTests := A }) (d := .combatTests)).mpr
      (List.forall_mem_map.mpr fun r _ => isTidy_combatTestRow r)
  refine ⟨fun A B => ?_, fun A B => ?_, fun A B => ?_⟩
  · rw [Table.text_eq_iff (hweapons A) (hweapons B) (fun _ => False.elim) rfl rfl rfl]
    exact hrows (fun _ _ => alike_weaponRow_iff) A B
  · rw [Table.text_eq_iff (hmaterials A) (hmaterials B) (fun _ => False.elim) rfl rfl rfl]
    exact hrows (fun _ _ => alike_armourMaterialRow_iff) A B
  · rw [Table.text_eq_iff (htests A) (htests B) (fun _ => False.elim) rfl rfl rfl]
    exact hrows (fun _ _ => alike_combatTestRow_iff) A B

end Zig

end CombatContent
