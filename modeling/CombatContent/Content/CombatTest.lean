import CombatContent.Typing.Shape

/-!
# Combat tests

A scripted exchange and what is expected of it. Every expectation may be left open.
-/

namespace CombatContent

open Typing (Shape field)

/-- The stats of an attacker, where given. -/
structure AttackerStats where
  power : Option Float := none
  speed : Option Float := none
  skill : Option Float := none

/-- Who attacks, and how. -/
structure Attacker where
  species : String := "dwarf"
  weaponId : String := ""
  techniqueId : String := ""
  stakes : String := "committed"
  stats : AttackerStats := {}

/-- Who defends, and how. -/
structure Defender where
  species : String := "dwarf"
  armourIds : List String := []
  pose : String := "balanced"
  targetPart : String := "torso"

/-- What is expected, where given. -/
structure Expectation where
  outcome : Option String := none
  damageDealtMin : Option Float := none
  damageDealtMax : Option Float := none
  packetEnergyMin : Option Float := none
  packetGeometryMin : Option Float := none
  armourDeflected : Option Bool := none
  penetratedLayersMin : Option Float := none
  penetratedLayersMax : Option Float := none

/-- A combat test. -/
structure CombatTest where
  description : String := ""
  attacker : Attacker := {}
  defender : Defender := {}
  expected : Expectation := {}

/-- The written form of an attacker's stats. -/
def AttackerStats.shape : Shape AttackerStats where
  name := "AttackerStats"
  fields := [
    field "power" (Typing.optional Typing.number) fun x s => { s with power := x },
    field "speed" (Typing.optional Typing.number) fun x s => { s with speed := x },
    field "skill" (Typing.optional Typing.number) fun x s => { s with skill := x }]
  start := {}

/-- The written form of an attacker. -/
def Attacker.shape : Shape Attacker where
  name := "AttackerSpec"
  fields := [
    field "species" Typing.text fun s a => { a with species := s },
    field "weapon_id" Typing.text fun s a => { a with weaponId := s },
    field "technique_id" Typing.text fun s a => { a with techniqueId := s },
    field "stakes" Typing.text fun s a => { a with stakes := s },
    field "stats" AttackerStats.shape.read fun s a => { a with stats := s }]
  start := {}

/-- The written form of a defender. -/
def Defender.shape : Shape Defender where
  name := "DefenderSpec"
  fields := [
    field "species" Typing.text fun s d => { d with species := s },
    field "armour_ids" (Typing.sequence Typing.text) fun ss d => { d with armourIds := ss },
    field "pose" Typing.text fun s d => { d with pose := s },
    field "target_part" Typing.text fun s d => { d with targetPart := s }]
  start := {}

/-- The written form of expectations. -/
def Expectation.shape : Shape Expectation where
  name := "ExpectedOutcome"
  fields := [
    field "outcome" (Typing.optional Typing.text) fun s e => { e with outcome := s },
    field "damage_dealt_min" (Typing.optional Typing.number) fun x e =>
      { e with damageDealtMin := x },
    field "damage_dealt_max" (Typing.optional Typing.number) fun x e =>
      { e with damageDealtMax := x },
    field "packet_energy_min" (Typing.optional Typing.number) fun x e =>
      { e with packetEnergyMin := x },
    field "packet_geometry_min" (Typing.optional Typing.number) fun x e =>
      { e with packetGeometryMin := x },
    field "armour_deflected" (Typing.optional Typing.boolean) fun b e =>
      { e with armourDeflected := b },
    field "penetrated_layers_min" (Typing.optional Typing.number) fun x e =>
      { e with penetratedLayersMin := x },
    field "penetrated_layers_max" (Typing.optional Typing.number) fun x e =>
      { e with penetratedLayersMax := x }]
  start := {}

/-- The written form of a combat test. -/
def CombatTest.shape : Shape CombatTest where
  name := "CombatTestData"
  fields := [
    field "description" Typing.text fun s t => { t with description := s },
    field "attacker" Attacker.shape.read fun a t => { t with attacker := a },
    field "defender" Defender.shape.read fun d t => { t with defender := d },
    field "expected" Expectation.shape.read fun e t => { t with expected := e }]
  start := {}

end CombatContent
