import CombatContent.Content.Armour

/-!
# Anatomy

A tissue template is a stack of layers. A body plan is a forest of named parts in document order;
a part names its parent, the part that encloses it, and its tissue template. An empty template name
is the same as none.
-/

namespace CombatContent

open Typing (Shape field)

/-- The coefficients of the material of a layer. -/
structure LayerMaterial where
  shielding : Shielding := {}
  susceptibility : Susceptibility := {}

/-- A layer of tissue. -/
structure TissueLayer where
  materialId : String := ""
  thicknessRatio : Float := 0.0
  material : LayerMaterial := {}

/-- A tissue template. -/
structure TissueTemplate where
  notes : String := ""
  layers : List TissueLayer := []

/-- The sum of the layers' thickness ratios, from the first on. The sum of no layers is the
negative zero, which changes no number that is added to it. -/
def TissueTemplate.thicknessSum (t : TissueTemplate) : Float :=
  (t.layers.map TissueLayer.thicknessRatio).foldl (· + ·) (-0.0)

/-- What a part is and can do. -/
structure PartFlags where
  vital : Bool := false
  isInternal : Bool := false
  grasp : Bool := false
  stand : Bool := false
  see : Bool := false
  hear : Bool := false

/-- The measures of a part. -/
structure PartGeometry where
  thickness : Float := 0.0
  length : Float := 0.0
  area : Float := 0.0

/-- A part of a body plan. -/
structure BodyPart where
  tag : String := "torso"
  side : String := "center"
  parent : Option String := none
  enclosing : Option String := none
  tissueTemplate : Option String := none
  hasMajorArtery : Bool := false
  flags : PartFlags := {}
  geometry : Option PartGeometry := none

/-- The tissue template that a part names, an empty name being none. -/
def BodyPart.namedTemplate? (p : BodyPart) : Option String :=
  p.tissueTemplate.filter fun s => !s.isEmpty

/-- The thickness of a part, zero where no measures are given. -/
def BodyPart.thickness (p : BodyPart) : Float :=
  match p.geometry with
  | some g => g.thickness
  | none => 0.0

/-- A body plan. -/
structure BodyPlan where
  name : Option String := none
  baseHeight : Float := 0.0
  baseMass : Float := 0.0
  parts : List (String × BodyPart) := []

/-- The written form of a layer's material. -/
def LayerMaterial.shape : Shape LayerMaterial where
  name := "LayerMaterial"
  fields := [
    field "shielding" Shielding.shape.read fun s m => { m with shielding := s },
    field "susceptibility" Susceptibility.shape.read fun s m => { m with susceptibility := s }]
  start := {}

/-- The written form of a layer. -/
def TissueLayer.shape : Shape TissueLayer where
  name := "TissueLayerData"
  fields := [
    field "material_id" Typing.text fun s l => { l with materialId := s },
    field "thickness_ratio" Typing.number fun x l => { l with thicknessRatio := x },
    field "material" LayerMaterial.shape.read fun m l => { l with material := m }]
  start := {}

/-- The written form of a tissue template. -/
def TissueTemplate.shape : Shape TissueTemplate where
  name := "TissueTemplateData"
  fields := [
    field "notes" Typing.text fun s t => { t with notes := s },
    field "layers" (Typing.sequence TissueLayer.shape.read) fun ls t => { t with layers := ls }]
  start := {}

/-- The written form of flags. -/
def PartFlags.shape : Shape PartFlags where
  name := "PartFlags"
  fields := [
    field "vital" Typing.boolean fun b f => { f with vital := b },
    field "internal" Typing.boolean fun b f => { f with isInternal := b },
    field "grasp" Typing.boolean fun b f => { f with grasp := b },
    field "stand" Typing.boolean fun b f => { f with stand := b },
    field "see" Typing.boolean fun b f => { f with see := b },
    field "hear" Typing.boolean fun b f => { f with hear := b }]
  start := {}

/-- The written form of measures. -/
def PartGeometry.shape : Shape PartGeometry where
  name := "PartGeometry"
  fields := [
    field "thickness_cm" Typing.number fun x g => { g with thickness := x },
    field "length_cm" Typing.number fun x g => { g with length := x },
    field "area_cm2" Typing.number fun x g => { g with area := x }]
  start := {}

/-- The written form of a part. -/
def BodyPart.shape : Shape BodyPart where
  name := "BodyPartData"
  fields := [
    field "tag" Typing.text fun s p => { p with tag := s },
    field "side" Typing.text fun s p => { p with side := s },
    field "parent" (Typing.optional Typing.text) fun s p => { p with parent := s },
    field "enclosing" (Typing.optional Typing.text) fun s p => { p with enclosing := s },
    field "tissue_template" (Typing.optional Typing.text) fun s p =>
      { p with tissueTemplate := s },
    field "has_major_artery" Typing.boolean fun b p => { p with hasMajorArtery := b },
    field "flags" PartFlags.shape.read fun f p => { p with flags := f },
    field "geometry" (Typing.optional PartGeometry.shape.read) fun g p =>
      { p with geometry := g }]
  start := {}

/-- Reads the parts of a plan, which have to be a map, in document order. -/
def BodyPlan.readParts : Typing.Reader (List (String × BodyPart))
  | .map ms => ms.mapM fun m => (BodyPart.shape.read m.2).map fun part => (m.1, part)
  | t => Typing.refuse .parts t

/-- The written form of a body plan. -/
def BodyPlan.shape : Shape BodyPlan where
  name := "BodyPlanData"
  fields := [
    field "name" (Typing.optional Typing.text) fun s p => { p with name := s },
    field "base_height_cm" Typing.number fun x p => { p with baseHeight := x },
    field "base_mass_kg" Typing.number fun x p => { p with baseMass := x },
    field "parts" BodyPlan.readParts fun ps p => { p with parts := ps }]
  start := {}

end CombatContent
