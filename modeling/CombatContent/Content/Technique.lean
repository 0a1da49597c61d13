import CombatContent.Typing.Shape

/-!
# Techniques

A technique may attack, occupies bodily channels, deals damage that scales with stats, and may be
laid over another technique. Its bias on the three damage axes keeps apart a multiplier that is
given as one from a multiplier that is not given.
-/

namespace CombatContent

open Typing (Shape field)

/-- The bodily channels that a technique occupies. -/
structure Channels where
  weapon : Bool := false
  offHand : Bool := false
  footwork : Bool := false

/-- One packet of damage. -/
structure DamageInstance where
  amount : Float := 0.0
  types : List String := []

/-- The stats that damage scales with: one, or the average of two. -/
structure ScalingStats where
  stat : Option String := none
  average : List String := []

/-- How damage scales with stats. -/
structure Scaling where
  ratio : Float := 1.0
  stats : ScalingStats := {}

/-- The damage that a technique deals. -/
structure Damage where
  instances : List DamageInstance := []
  scaling : Scaling := {}

/-- What a technique adds to the attack it is laid over. -/
structure OffensiveOverlay where
  toHitBonus : Float := 0.0
  damageMult : Float := 1.0

/-- What a technique adds to the defence it is laid over. -/
structure DefensiveOverlay where
  defenseBonus : Float := 0.0

/-- What a technique adds to the one it is laid over. -/
structure Overlay where
  offensive : OffensiveOverlay := {}
  defensive : DefensiveOverlay := {}

/-- The multipliers of the three damage axes, where given. -/
structure AxisBias where
  geometry : Option Float := none
  energy : Option Float := none
  rigidity : Option Float := none

/-- A technique. -/
structure Technique where
  name : String := ""
  attackMode : String := "none"
  targetHeight : Option String := none
  secondaryHeight : Option String := none
  guardHeight : Option String := none
  coversAdjacent : Bool := false
  difficulty : Float := 0.0
  channels : Channels := {}
  damage : Damage := {}
  deflectMult : Float := 1.0
  parryMult : Float := 1.0
  dodgeMult : Float := 1.0
  counterMult : Float := 1.0
  overlay : Overlay := {}
  axisBias : Option AxisBias := none

/-- Whether a technique attacks at all. -/
def Technique.isAttack (t : Technique) : Bool := t.attackMode != "none"

/-- Whether some channel is occupied. -/
def Channels.any (c : Channels) : Bool := c.weapon || c.offHand || c.footwork

/-- The channels by name. -/
def Channels.named (c : Channels) : List (String × Bool) :=
  [("weapon", c.weapon), ("off_hand", c.offHand), ("footwork", c.footwork)]

/-- The names of the occupied channels. -/
def Channels.active (c : Channels) : List String :=
  (c.named.filter (·.2)).map (·.1)

/-- Whether no multiplier is given. -/
def AxisBias.isEmpty (b : AxisBias) : Bool :=
  b.geometry.isNone && b.energy.isNone && b.rigidity.isNone

/-- The written form of channels. -/
def Channels.shape : Shape Channels where
  name := "Channels"
  fields := [
    field "weapon" Typing.boolean fun b c => { c with weapon := b },
    field "off_hand" Typing.boolean fun b c => { c with offHand := b },
    field "footwork" Typing.boolean fun b c => { c with footwork := b }]
  start := {}

/-- The written form of a packet of damage. -/
def DamageInstance.shape : Shape DamageInstance where
  name := "DamageInstance"
  fields := [
    field "amount" Typing.number fun x d => { d with amount := x },
    field "types" (Typing.sequence Typing.text) fun ss d => { d with types := ss }]
  start := {}

/-- The written form of the stats that damage scales with. -/
def ScalingStats.shape : Shape ScalingStats where
  name := "ScalingStats"
  fields := [
    field "stat" (Typing.optional Typing.text) fun s r => { r with stat := s },
    field "average" (Typing.sequence Typing.text) fun ss r => { r with average := ss }]
  start := {}

/-- The written form of scaling. -/
def Scaling.shape : Shape Scaling where
  name := "Scaling"
  fields := [
    field "ratio" Typing.number fun x s => { s with ratio := x },
    field "stats" ScalingStats.shape.read fun r s => { s with stats := r }]
  start := {}

/-- The written form of damage. -/
def Damage.shape : Shape Damage where
  name := "DamageData"
  fields := [
    field "instances" (Typing.sequence DamageInstance.shape.read) fun ds d =>
      { d with instances := ds },
    field "scaling" Scaling.shape.read fun s d => { d with scaling := s }]
  start := {}

/-- The written form of an offensive overlay. -/
def OffensiveOverlay.shape : Shape OffensiveOverlay where
  name := "OffensiveOverlay"
  fields := [
    field "to_hit_bonus" Typing.number fun x o => { o with toHitBonus := x },
    field "damage_mult" Typing.number fun x o => { o with damageMult := x }]
  start := {}

/-- The written form of a defensive overlay. -/
def DefensiveOverlay.shape : Shape DefensiveOverlay where
  name := "DefensiveOverlay"
  fields := [
    field "defense_bonus" Typing.number fun x o => { o with defenseBonus := x }]
  start := {}

/-- The written form of an overlay. -/
def Overlay.shape : Shape Overlay where
  name := "OverlayBonus"
  fields := [
    field "offensive" OffensiveOverlay.shape.read fun x o => { o with offensive := x },
    field "defensive" DefensiveOverlay.shape.read fun x o => { o with defensive := x }]
  start := {}

/-- The written form of a bias. -/
def AxisBias.shape : Shape AxisBias where
  name := "AxisBias"
  fields := [
    field "geometry_mult" (Typing.optional Typing.number) fun x b => { b with geometry := x },
    field "energy_mult" (Typing.optional Typing.number) fun x b => { b with energy := x },
    field "rigidity_mult" (Typing.optional Typing.number) fun x b => { b with rigidity := x }]
  start := {}

/-- The written form of a technique. -/
def Technique.shape : Shape Technique where
  name := "TechniqueData"
  fields := [
    field "name" Typing.text fun s t => { t with name := s },
    field "attack_mode" Typing.text fun s t => { t with attackMode := s },
    field "target_height" (Typing.optional Typing.text) fun s t => { t with targetHeight := s },
    field "secondary_height" (Typing.optional Typing.text) fun s t =>
      { t with secondaryHeight := s },
    field "guard_height" (Typing.optional Typing.text) fun s t => { t with guardHeight := s },
    field "covers_adjacent" Typing.boolean fun b t => { t with coversAdjacent := b },
    field "difficulty" Typing.number fun x t => { t with difficulty := x },
    field "channels" Channels.shape.read fun c t => { t with channels := c },
    field "damage" Damage.shape.read fun d t => { t with damage := d },
    field "deflect_mult" Typing.number fun x t => { t with deflectMult := x },
    field "parry_mult" Typing.number fun x t => { t with parryMult := x },
    field "dodge_mult" Typing.number fun x t => { t with dodgeMult := x },
    field "counter_mult" Typing.number fun x t => { t with counterMult := x },
    field "overlay_bonus" Overlay.shape.read fun o t => { t with overlay := o },
    field "axis_bias" (Typing.optional AxisBias.shape.read) fun b t => { t with axisBias := b }]
  start := {}

end CombatContent
