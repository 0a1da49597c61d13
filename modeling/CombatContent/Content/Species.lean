import CombatContent.Typing.Shape

/-!
# Species
-/

namespace CombatContent

open Typing (Shape field)

/-- How a species differs in size from its body plan, where given. -/
structure SizeModifiers where
  height : Option Float := none
  mass : Option Float := none

/-- A weapon that comes with a part of the body. -/
structure NaturalWeapon where
  weaponId : String := ""
  requiredPart : String := "hand"

/-- A species. -/
structure Species where
  name : Option String := none
  bodyPlan : String := ""
  baseBlood : Float := 0.0
  baseStamina : Float := 0.0
  baseFocus : Float := 0.0
  staminaRecovery : Option Float := none
  focusRecovery : Option Float := none
  bloodRecovery : Option Float := none
  size : SizeModifiers := {}
  tags : List String := []
  naturalWeapons : List NaturalWeapon := []

/-- The written form of size modifiers. -/
def SizeModifiers.shape : Shape SizeModifiers where
  name := "SizeModifiers"
  fields := [
    field "height" (Typing.optional Typing.number) fun x s => { s with height := x },
    field "mass" (Typing.optional Typing.number) fun x s => { s with mass := x }]
  start := {}

/-- The written form of a natural weapon. -/
def NaturalWeapon.shape : Shape NaturalWeapon where
  name := "NaturalWeapon"
  fields := [
    field "weapon_id" Typing.text fun s n => { n with weaponId := s },
    field "required_part" Typing.text fun s n => { n with requiredPart := s }]
  start := {}

/-- The written form of a species. -/
def Species.shape : Shape Species where
  name := "SpeciesData"
  fields := [
    field "name" (Typing.optional Typing.text) fun x s => { s with name := x },
    field "body_plan" Typing.text fun x s => { s with bodyPlan := x },
    field "base_blood" Typing.number fun x s => { s with baseBlood := x },
    field "base_stamina" Typing.number fun x s => { s with baseStamina := x },
    field "base_focus" Typing.number fun x s => { s with baseFocus := x },
    field "stamina_recovery" (Typing.optional Typing.number) fun x s =>
      { s with staminaRecovery := x },
    field "focus_recovery" (Typing.optional Typing.number) fun x s =>
      { s with focusRecovery := x },
    field "blood_recovery" (Typing.optional Typing.number) fun x s =>
      { s with bloodRecovery := x },
    field "size_modifiers" SizeModifiers.shape.read fun x s => { s with size := x },
    field "tags" (Typing.sequence Typing.text) fun xs s => { s with tags := xs },
    field "natural_weapons" (Typing.sequence NaturalWeapon.shape.read) fun xs s =>
      { s with naturalWeapons := xs }]
  start := {}

end CombatContent
