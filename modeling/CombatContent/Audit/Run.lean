import CombatContent.Audit.AnatomyRules
import CombatContent.Audit.ArmourRules
import CombatContent.Audit.Report
import CombatContent.Audit.TechniqueRule
import CombatContent.Audit.WeaponRule

/-!
# The audit of content

Every record of the audited datasets gives an entry, in display order, and then every malformed
record of any dataset gives a failing one. References are resolved when all entries are in.
-/

namespace CombatContent.Audit

/-- The entry of a malformed record. -/
def malformedEntry (m : Malformed) : Entry :=
  (Entry.blank m.dataset m.id).error ("Malformed record: " ++ m.fault.message)

/-- The entries of the typed records of one dataset. Species and combat tests have no rules. -/
def typedEntries (c : Content) : Dataset → List Entry
  | .weapons => c.weapons.map weaponEntry
  | .techniques => c.techniques.map techniqueEntry
  | .armourMaterials => c.armourMaterials.map armourMaterialEntry
  | .armourPieces => c.armourPieces.map armourPieceEntry
  | .tissueTemplates => c.tissueTemplates.map tissueTemplateEntry
  | .bodyPlans => c.bodyPlans.map bodyPlanEntry
  | .species => []
  | .combatTests => []

/-- The entries of content, in the order in which the report takes them in. -/
def entries (c : Content) : List Entry :=
  Dataset.audited.flatMap (typedEntries c) ++ c.malformed.map malformedEntry

/-- The audit of content. -/
def run (c : Content) : Report :=
  (Report.empty.addAll (entries c)).resolve

end CombatContent.Audit
