import CombatContent.Content.Anatomy
import CombatContent.Content.CombatTest
import CombatContent.Content.Species
import CombatContent.Content.Technique
import CombatContent.Content.Weapon
import CombatContent.Proofs.PartOrder.Declarations
import CombatContent.Proofs.Reordering.Readers

/-!
# Records and the order of members

Every record is orderly: its fields read alike, and what any two of them do to the record can be
done in either order, for they fill different places. All records but body plans are read as the
same record. The parts of a body plan come in another order, but their part order is the same.

## Main definitions

* `BodyPlan.Alike`: body plans that differ at most in the order in which parts are declared.

## Main results

* `readsAlike_weapon` and its siblings, one for each dataset.
-/

namespace CombatContent

namespace Typing

variable {α β ρ : Type}

@[simp]
theorem readsAlike_field_eq {name : String} {r : Reader α} {put : α → ρ → ρ}
    (hr : ReadsAlike Eq r) : ReadsAlike (Relator.LiftFun Eq Eq) (field name r put).read :=
  readsAlike_field hr fun _ _ ha _ _ hx => by rw [ha, hx]

@[simp]
theorem readsAlike_requiredField_eq {name : String} {r : Reader α} {put : α → ρ → ρ}
    (hr : ReadsAlike Eq r) : ReadsAlike (Relator.LiftFun Eq Eq) (requiredField name r put).read :=
  readsAlike_requiredField hr fun _ _ ha _ _ hx => by rw [ha, hx]

/-- Fields that fill different places commute. -/
@[simp]
theorem commute_field {name name' : String} {r : Reader α} {r' : Reader β} {put : α → ρ → ρ}
    {put' : β → ρ → ρ} (h : ∀ a b x, put' b (put a x) = put a (put' b x)) :
    (field name r put).Commute (field name' r' put') := by
  intro t u p q hp hq x
  obtain ⟨a, -, rfl⟩ := map_eq_ok_iff.mp hp
  obtain ⟨b, -, rfl⟩ := map_eq_ok_iff.mp hq
  exact h a b x

@[simp]
theorem commute_requiredField {name name' : String} {r : Reader α} {r' : Reader β}
    {put : α → ρ → ρ} {put' : β → ρ → ρ} (h : ∀ a b x, put' b (put a x) = put a (put' b x)) :
    (requiredField name r put).Commute (field name' r' put') :=
  @commute_field α β ρ name name' r r' put put' h

end Typing

open Typing (ReadsAlike)
open Typing.Shape (Orderly)

/-! ### Armour -/

@[simp]
theorem readsAlike_shielding : ReadsAlike Eq Shielding.shape.read :=
  Orderly.readsAlike (by constructor <;> simp [Shielding.shape])

@[simp]
theorem readsAlike_susceptibility : ReadsAlike Eq Susceptibility.shape.read :=
  Orderly.readsAlike (by constructor <;> simp [Susceptibility.shape])

@[simp]
theorem readsAlike_materialForm : ReadsAlike Eq MaterialForm.shape.read :=
  Orderly.readsAlike (by constructor <;> simp [MaterialForm.shape])

theorem readsAlike_armourMaterial : ReadsAlike Eq ArmourMaterial.shape.read :=
  Orderly.readsAlike (by constructor <;> simp [ArmourMaterial.shape])

@[simp]
theorem readsAlike_coverage : ReadsAlike Eq Coverage.shape.read :=
  Orderly.readsAlike (by constructor <;> simp [Coverage.shape])

theorem readsAlike_armourPiece : ReadsAlike Eq ArmourPiece.shape.read :=
  Orderly.readsAlike (by constructor <;> simp [ArmourPiece.shape])

/-! ### Weapons -/

@[simp]
theorem readsAlike_weaponPhysics : ReadsAlike Eq WeaponPhysics.shape.read :=
  Orderly.readsAlike (by constructor <;> simp [WeaponPhysics.shape])

theorem readsAlike_weapon : ReadsAlike Eq Weapon.shape.read :=
  Orderly.readsAlike (by constructor <;> simp [Weapon.shape])

/-! ### Techniques -/

@[simp]
theorem readsAlike_channels : ReadsAlike Eq Channels.shape.read :=
  Orderly.readsAlike (by constructor <;> simp [Channels.shape])

@[simp]
theorem readsAlike_damageInstance : ReadsAlike Eq DamageInstance.shape.read :=
  Orderly.readsAlike (by constructor <;> simp [DamageInstance.shape])

@[simp]
theorem readsAlike_scalingStats : ReadsAlike Eq ScalingStats.shape.read :=
  Orderly.readsAlike (by constructor <;> simp [ScalingStats.shape])

@[simp]
theorem readsAlike_scaling : ReadsAlike Eq Scaling.shape.read :=
  Orderly.readsAlike (by constructor <;> simp [Scaling.shape])

@[simp]
theorem readsAlike_damage : ReadsAlike Eq Damage.shape.read :=
  Orderly.readsAlike (by constructor <;> simp [Damage.shape])

@[simp]
theorem readsAlike_offensiveOverlay : ReadsAlike Eq OffensiveOverlay.shape.read :=
  Orderly.readsAlike (by constructor <;> simp [OffensiveOverlay.shape])

@[simp]
theorem readsAlike_defensiveOverlay : ReadsAlike Eq DefensiveOverlay.shape.read :=
  Orderly.readsAlike (by constructor <;> simp [DefensiveOverlay.shape])

@[simp]
theorem readsAlike_overlay : ReadsAlike Eq Overlay.shape.read :=
  Orderly.readsAlike (by constructor <;> simp [Overlay.shape])

@[simp]
theorem readsAlike_axisBias : ReadsAlike Eq AxisBias.shape.read :=
  Orderly.readsAlike (by constructor <;> simp [AxisBias.shape])

theorem readsAlike_technique : ReadsAlike Eq Technique.shape.read :=
  Orderly.readsAlike (by constructor <;> simp [Technique.shape])

/-! ### Species -/

@[simp]
theorem readsAlike_sizeModifiers : ReadsAlike Eq SizeModifiers.shape.read :=
  Orderly.readsAlike (by constructor <;> simp [SizeModifiers.shape])

@[simp]
theorem readsAlike_naturalWeapon : ReadsAlike Eq NaturalWeapon.shape.read :=
  Orderly.readsAlike (by constructor <;> simp [NaturalWeapon.shape])

theorem readsAlike_species : ReadsAlike Eq Species.shape.read :=
  Orderly.readsAlike (by constructor <;> simp [Species.shape])

/-! ### Combat tests -/

@[simp]
theorem readsAlike_attackerStats : ReadsAlike Eq AttackerStats.shape.read :=
  Orderly.readsAlike (by constructor <;> simp [AttackerStats.shape])

@[simp]
theorem readsAlike_attacker : ReadsAlike Eq Attacker.shape.read :=
  Orderly.readsAlike (by constructor <;> simp [Attacker.shape])

@[simp]
theorem readsAlike_defender : ReadsAlike Eq Defender.shape.read :=
  Orderly.readsAlike (by constructor <;> simp [Defender.shape])

@[simp]
theorem readsAlike_expectation : ReadsAlike Eq Expectation.shape.read :=
  Orderly.readsAlike (by constructor <;> simp [Expectation.shape])

theorem readsAlike_combatTest : ReadsAlike Eq CombatTest.shape.read :=
  Orderly.readsAlike (by constructor <;> simp [CombatTest.shape])

/-! ### Anatomy -/

@[simp]
theorem readsAlike_layerMaterial : ReadsAlike Eq LayerMaterial.shape.read :=
  Orderly.readsAlike (by constructor <;> simp [LayerMaterial.shape])

@[simp]
theorem readsAlike_tissueLayer : ReadsAlike Eq TissueLayer.shape.read :=
  Orderly.readsAlike (by constructor <;> simp [TissueLayer.shape])

theorem readsAlike_tissueTemplate : ReadsAlike Eq TissueTemplate.shape.read :=
  Orderly.readsAlike (by constructor <;> simp [TissueTemplate.shape])

@[simp]
theorem readsAlike_partFlags : ReadsAlike Eq PartFlags.shape.read :=
  Orderly.readsAlike (by constructor <;> simp [PartFlags.shape])

@[simp]
theorem readsAlike_partGeometry : ReadsAlike Eq PartGeometry.shape.read :=
  Orderly.readsAlike (by constructor <;> simp [PartGeometry.shape])

theorem readsAlike_bodyPart : ReadsAlike Eq BodyPart.shape.read :=
  Orderly.readsAlike (by constructor <;> simp [BodyPart.shape])

/-- Lists of parts that have the same part order. -/
def SameOrder (ps qs : List (String × BodyPart)) : Prop :=
  PartOrder.order BodyPart.parent ps = PartOrder.order BodyPart.parent qs

/-- Body plans that are the same but for the order in which their parts are declared. -/
structure BodyPlan.Alike (p q : BodyPlan) : Prop where
  name : p.name = q.name
  baseHeight : p.baseHeight = q.baseHeight
  baseMass : p.baseMass = q.baseMass
  parts : SameOrder p.parts q.parts

/-- The parts are named by the keys. -/
theorem names_of_readParts {ms : Members} {ps : List (String × BodyPart)}
    (h : BodyPlan.readParts (.map ms) = .ok ps) : ps.map (·.1) = ms.keys := by
  rw [BodyPlan.readParts, Typing.mapM_eq_ok_iff] at h
  refine (map_eq_map_of_forall₂ (fun m p hp => ?_) h).symm
  obtain ⟨part, -, rfl⟩ := Typing.map_eq_ok_iff.mp hp
  rfl

/-- The parts are read alike, up to the order in which they are declared. -/
theorem readsAlike_readParts : ReadsAlike SameOrder BodyPlan.readParts := by
  intro t u htu ht ps hps
  cases t with
  | map ms =>
    obtain ⟨ns', rfl, ns, halign, hperm⟩ := Tree.Reordered.map_iff.mp htu
    obtain ⟨hkeys, hvalues⟩ := Tree.hasDistinctKeys_map_iff.mp ht
    have hpart (m : String × Tree) (hm : m ∈ ms) (n : String × Tree)
        (hmn : Tree.MemberReordered m n) (p : String × BodyPart)
        (hp : (BodyPart.shape.read m.2).map (Prod.mk m.1) = .ok p) :
        ∃ q, (BodyPart.shape.read n.2).map (Prod.mk n.1) = .ok q ∧ p = q := by
      obtain ⟨hkey, hvalue⟩ := Tree.memberReordered_iff.mp hmn
      rw [hkey] at hp
      exact readsAlike_bodyPart.map (fun _ _ h => congrArg _ h) hvalue (hvalues m hm) hp
    obtain ⟨ps', hps', heq⟩ := Typing.mapM_alike halign hpart hps
    rw [List.forall₂_eq_eq_eq] at heq
    subst heq
    obtain ⟨qs, hqs, hpq⟩ := Typing.mapM_perm hperm hps'
    refine ⟨qs, hqs, ?_⟩
    have hnodup : (ps.map (·.1)).Nodup := names_of_readParts hps ▸ hkeys
    rw [SameOrder, PartOrder.order, PartOrder.order, PartOrder.lastByName_perm hpq hnodup]
  | _ => exact absurd hps (by simp [BodyPlan.readParts, Typing.refuse])

/-- Body plans are read as plans that differ at most in the order in which parts are declared. -/
theorem readsAlike_bodyPlan : ReadsAlike BodyPlan.Alike BodyPlan.shape.read := by
  refine Orderly.readsAlike ⟨⟨rfl, rfl, rfl, rfl⟩, ?_, by simp [BodyPlan.shape]⟩
  simp only [BodyPlan.shape, List.forall_mem_cons]
  refine ⟨?_, ?_, ?_, ?_, List.forall_mem_nil _⟩
  · refine Typing.readsAlike_field (Typing.readsAlike_optional Typing.readsAlike_text) ?_
    rintro a _ rfl p q h
    exact { h with name := rfl }
  · refine Typing.readsAlike_field Typing.readsAlike_number ?_
    rintro a _ rfl p q h
    exact { h with baseHeight := rfl }
  · refine Typing.readsAlike_field Typing.readsAlike_number ?_
    rintro a _ rfl p q h
    exact { h with baseMass := rfl }
  · refine Typing.readsAlike_field readsAlike_readParts ?_
    rintro a b hab p q h
    exact { h with parts := hab }

end CombatContent
