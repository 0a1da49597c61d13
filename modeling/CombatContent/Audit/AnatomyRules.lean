import CombatContent.Audit.Entry
import CombatContent.Audit.Policy
import CombatContent.Content
import CombatContent.Decimal.Fixed

/-!
# The audit of anatomy

A tissue template without layers, and a layer without a material, are errors; thickness ratios that
are not about one in sum are worth a warning. A part without a tissue template is an error of its
plan, and a part without thickness is worth a warning. A plan refers once to every template that
its parts use.
-/

namespace CombatContent.Audit

/-- The warning about thickness ratios that are not about one in sum. -/
def thicknessWarnings (sum : Float) : List String :=
  if exceeds (sum - 1.0).abs thicknessTolerance then
    ["Thickness ratios sum to " ++ Decimal.fixed 3 sum ++ " (expected ~1.0, tolerance " ++
      Decimal.text thicknessTolerance ++ ")"]
  else []

/-- The errors about layers without a material, counted from zero. -/
def layerErrors (ls : List TissueLayer) : List String :=
  (ls.zipIdx.filter fun l => l.1.materialId.isEmpty).map fun l =>
    "Layer " ++ toString l.2 ++ " has no material_id"

/-- The error about layers that are not given. -/
def noLayersErrors (ls : List TissueLayer) : List String :=
  if ls.isEmpty then ["No layers defined"] else []

/-- The materials that layers name. -/
def namedMaterials (ls : List TissueLayer) : List String :=
  (ls.map TissueLayer.materialId).filter fun id => !id.isEmpty

/-- The fields of the entry of a tissue template. -/
def tissueTemplateFields (t : TissueTemplate) : List (String × FieldValue) :=
  [("notes", .text t.notes), ("layer_count", .count t.layers.length),
    ("thickness_sum", .number t.thicknessSum),
    ("materials", .list (t.layers.map TissueLayer.materialId))]

/-- The audit of a tissue template. -/
def tissueTemplateEntry (r : Record TissueTemplate) : Entry :=
  Entry.blank .tissueTemplates r.id
    |>.withFields (tissueTemplateFields r.data)
    |>.warnAll (thicknessWarnings r.data.thicknessSum)
    |>.errorAll (noLayersErrors r.data.layers)
    |>.errorAll (layerErrors r.data.layers)
    |>.referAll .tissueMaterial (namedMaterials r.data.layers)

theorem tissueTemplateEntry_eq (r : Record TissueTemplate) :
    tissueTemplateEntry r =
      { dataset := .tissueTemplates, id := r.id, fields := tissueTemplateFields r.data,
        references := (namedMaterials r.data.layers).map fun id => ⟨.tissueMaterial, id⟩,
        warnings := thicknessWarnings r.data.thicknessSum,
        errors := noLayersErrors r.data.layers ++ layerErrors r.data.layers } := by
  rw [tissueTemplateEntry, Entry.referAll_eq, Entry.errorAll_eq, Entry.errorAll_eq,
    Entry.warnAll_eq, Entry.withFields_eq]
  rfl

@[simp]
theorem id_tissueTemplateEntry (r : Record TissueTemplate) : (tissueTemplateEntry r).id = r.id := by
  rw [tissueTemplateEntry_eq]

/-- The names of the parts with a property, in document order. -/
def partNames (p : BodyPart → Bool) (parts : List (String × BodyPart)) : List String :=
  (parts.filter fun part => p part.2).map (·.1)

/-- The templates that parts use. -/
def templatesUsed (parts : List (String × BodyPart)) : NameSet :=
  NameSet.ofList (parts.filterMap fun part => part.2.namedTemplate?)

/-- A finding about parts, if there are any. -/
def partFinding (what : String) (names : List String) : List String :=
  if names.isEmpty then [] else [what ++ ": " ++ listNames names]

/-- The error about parts without a tissue template. -/
def templateErrors (parts : List (String × BodyPart)) : List String :=
  partFinding "Parts missing tissue_template" (partNames (fun p => p.namedTemplate?.isNone) parts)

/-- The warning about parts without thickness. -/
def geometryWarnings (parts : List (String × BodyPart)) : List String :=
  partFinding "Parts with zero/missing geometry" (partNames (fun p => p.thickness == 0.0) parts)

/-- The fields of the entry of a body plan. -/
def bodyPlanFields (p : BodyPlan) : List (String × FieldValue) :=
  [("name", .text (p.name.getD "")), ("base_height_cm", .number p.baseHeight),
    ("base_mass_kg", .number p.baseMass), ("part_count", .count p.parts.length),
    ("tissue_templates_used", .list (templatesUsed p.parts).toList)]

/-- The audit of a body plan. -/
def bodyPlanEntry (r : Record BodyPlan) : Entry :=
  Entry.blank .bodyPlans r.id
    |>.withFields (bodyPlanFields r.data)
    |>.errorAll (templateErrors r.data.parts)
    |>.warnAll (geometryWarnings r.data.parts)
    |>.referAll (.record .tissueTemplates) (templatesUsed r.data.parts).toList

theorem bodyPlanEntry_eq (r : Record BodyPlan) :
    bodyPlanEntry r =
      { dataset := .bodyPlans, id := r.id, fields := bodyPlanFields r.data,
        references :=
          (templatesUsed r.data.parts).toList.map fun id => ⟨.record .tissueTemplates, id⟩,
        warnings := geometryWarnings r.data.parts,
        errors := templateErrors r.data.parts } := by
  rw [bodyPlanEntry, Entry.referAll_eq, Entry.warnAll_eq, Entry.errorAll_eq, Entry.withFields_eq]
  rfl

@[simp]
theorem id_bodyPlanEntry (r : Record BodyPlan) : (bodyPlanEntry r).id = r.id := by
  rw [bodyPlanEntry_eq]

end CombatContent.Audit
