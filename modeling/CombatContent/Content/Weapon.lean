import CombatContent.Typing.Shape

/-!
# Weapons
-/

namespace CombatContent

open Typing (Shape field requiredField)

/-- The coefficients that follow from a weapon's form. -/
structure WeaponPhysics where
  momentOfInertia : Float := 0.0
  effectiveMass : Float := 0.0
  referenceEnergy : Float := 0.0
  geometry : Float := 0.0
  rigidity : Float := 0.0

/-- A weapon. -/
structure Weapon where
  name : String := ""
  category : Option String := none
  weight : Float := 0.0
  length : Float := 0.0
  balance : Float := 0.0
  swing : Bool := false
  thrust : Bool := false
  physics : WeaponPhysics := {}

/-- The written form of a weapon's coefficients. -/
def WeaponPhysics.shape : Shape WeaponPhysics where
  name := "DerivedPhysics"
  fields := [
    field "moment_of_inertia" Typing.number fun x p => { p with momentOfInertia := x },
    field "effective_mass" Typing.number fun x p => { p with effectiveMass := x },
    field "reference_energy_j" Typing.number fun x p => { p with referenceEnergy := x },
    field "geometry_coeff" Typing.number fun x p => { p with geometry := x },
    field "rigidity_coeff" Typing.number fun x p => { p with rigidity := x }]
  start := {}

/-- The written form of a weapon; only its name has to be given. -/
def Weapon.shape : Shape Weapon where
  name := "WeaponData"
  fields := [
    requiredField "name" Typing.text fun s w => { w with name := s },
    field "category" (Typing.optional Typing.text) fun s w => { w with category := s },
    field "weight_kg" Typing.number fun x w => { w with weight := x },
    field "length_m" Typing.number fun x w => { w with length := x },
    field "balance" Typing.number fun x w => { w with balance := x },
    field "swing" Typing.boolean fun b w => { w with swing := b },
    field "thrust" Typing.boolean fun b w => { w with thrust := b },
    field "derived" WeaponPhysics.shape.read fun p w => { w with physics := p }]
  start := {}

end CombatContent
