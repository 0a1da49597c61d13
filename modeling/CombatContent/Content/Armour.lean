import CombatContent.Typing.Shape

/-!
# Armour

A material shields and is susceptible on each of three damage axes. Thresholds and ratios that are
not given stay absent, for armour and tissue fill them in differently. A piece is of one material
and covers parts of the body.
-/

namespace CombatContent

open Typing (Shape field requiredField)

/-- A damage axis. -/
inductive Axis where
  | geometry
  | energy
  | rigidity
  deriving DecidableEq, Repr

/-- The axes in the order of reports. -/
def Axis.all : List Axis := [.geometry, .energy, .rigidity]

/-- The name of an axis. -/
def Axis.name : Axis → String
  | .geometry => "geometry"
  | .energy => "energy"
  | .rigidity => "rigidity"

/-- Shielding coefficients of armour and of tissue. -/
structure Shielding where
  deflection : Float := 0.0
  absorption : Float := 0.0
  dispersion : Float := 0.0

/-- The sum of the coefficients, from left to right. -/
def Shielding.sum (s : Shielding) : Float := s.deflection + s.absorption + s.dispersion

/-- Where damage on one axis begins to count, and how much of it does, where given. -/
structure AxisSusceptibility where
  threshold : Option Float := none
  ratio : Option Float := none

/-- Susceptibility on the three axes. -/
structure Susceptibility where
  geometry : AxisSusceptibility := {}
  energy : AxisSusceptibility := {}
  rigidity : AxisSusceptibility := {}

/-- Susceptibility on one axis. -/
def Susceptibility.on (s : Susceptibility) : Axis → AxisSusceptibility
  | .geometry => s.geometry
  | .energy => s.energy
  | .rigidity => s.rigidity

/-- What the form of a material adds. -/
structure MaterialForm where
  profile : String := "solid"
  dispersionBonus : Float := 0.0
  absorptionBonus : Float := 0.0

/-- An armour material. -/
structure ArmourMaterial where
  name : String := ""
  shielding : Shielding := {}
  susceptibility : Susceptibility := {}
  form : Option MaterialForm := none

/-- Parts that an armour piece covers. -/
structure Coverage where
  partTags : List String := []
  side : String := "center"
  layer : String := "outer"
  totality : String := "frontal"

/-- A piece of armour. -/
structure ArmourPiece where
  name : Option String := none
  material : String := ""
  coverage : List Coverage := []

/-- The written form of shielding. -/
def Shielding.shape : Shape Shielding where
  name := "Shielding"
  fields := [
    field "deflection" Typing.number fun x s => { s with deflection := x },
    field "absorption" Typing.number fun x s => { s with absorption := x },
    field "dispersion" Typing.number fun x s => { s with dispersion := x }]
  start := {}

/-- The written form of susceptibility. -/
def Susceptibility.shape : Shape Susceptibility where
  name := "Susceptibility"
  fields := [
    field "geometry_threshold" (Typing.optional Typing.number) fun x s =>
      { s with geometry := { s.geometry with threshold := x } },
    field "geometry_ratio" (Typing.optional Typing.number) fun x s =>
      { s with geometry := { s.geometry with ratio := x } },
    field "energy_threshold" (Typing.optional Typing.number) fun x s =>
      { s with energy := { s.energy with threshold := x } },
    field "energy_ratio" (Typing.optional Typing.number) fun x s =>
      { s with energy := { s.energy with ratio := x } },
    field "rigidity_threshold" (Typing.optional Typing.number) fun x s =>
      { s with rigidity := { s.rigidity with threshold := x } },
    field "rigidity_ratio" (Typing.optional Typing.number) fun x s =>
      { s with rigidity := { s.rigidity with ratio := x } }]
  start := {}

/-- The written form of a material's form. -/
def MaterialForm.shape : Shape MaterialForm where
  name := "ShapeData"
  fields := [
    field "profile" Typing.text fun s f => { f with profile := s },
    field "dispersion_bonus" Typing.number fun x f => { f with dispersionBonus := x },
    field "absorption_bonus" Typing.number fun x f => { f with absorptionBonus := x }]
  start := {}

/-- The written form of an armour material; only its name has to be given. -/
def ArmourMaterial.shape : Shape ArmourMaterial where
  name := "ArmourMaterialData"
  fields := [
    requiredField "name" Typing.text fun s m => { m with name := s },
    field "shielding" Shielding.shape.read fun s m => { m with shielding := s },
    field "susceptibility" Susceptibility.shape.read fun s m => { m with susceptibility := s },
    field "shape" (Typing.optional MaterialForm.shape.read) fun f m => { m with form := f }]
  start := {}

/-- The written form of coverage. -/
def Coverage.shape : Shape Coverage where
  name := "CoverageData"
  fields := [
    field "part_tags" (Typing.sequence Typing.text) fun ss c => { c with partTags := ss },
    field "side" Typing.text fun s c => { c with side := s },
    field "layer" Typing.text fun s c => { c with layer := s },
    field "totality" Typing.text fun s c => { c with totality := s }]
  start := {}

/-- The written form of an armour piece. -/
def ArmourPiece.shape : Shape ArmourPiece where
  name := "ArmourPieceData"
  fields := [
    field "name" (Typing.optional Typing.text) fun s p => { p with name := s },
    field "material" Typing.text fun s p => { p with material := s },
    field "coverage" (Typing.sequence Coverage.shape.read) fun cs p => { p with coverage := cs }]
  start := {}

end CombatContent
