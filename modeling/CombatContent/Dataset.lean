/-!
# Datasets

A document holds up to eight datasets. Their order here is the order in which reports show them;
six of them have audit rules.
-/

namespace CombatContent

/-- A kind of record. -/
inductive Dataset where
  | weapons
  | techniques
  | armourMaterials
  | armourPieces
  | tissueTemplates
  | bodyPlans
  | species
  | combatTests
  deriving DecidableEq, Repr

namespace Dataset

/-- Every dataset, in display order. -/
def all : List Dataset :=
  [.weapons, .techniques, .armourMaterials, .armourPieces, .tissueTemplates, .bodyPlans,
    .species, .combatTests]

/-- The datasets with audit rules, in display order. -/
def audited : List Dataset :=
  [.weapons, .techniques, .armourMaterials, .armourPieces, .tissueTemplates, .bodyPlans]

/-- The key of a dataset in documents and reports. -/
def key : Dataset → String
  | .weapons => "weapons"
  | .techniques => "techniques"
  | .armourMaterials => "armour_materials"
  | .armourPieces => "armour_pieces"
  | .tissueTemplates => "tissue_templates"
  | .bodyPlans => "body_plans"
  | .species => "species"
  | .combatTests => "combat_tests"

/-- The heading of a dataset's section. -/
def title : Dataset → String
  | .weapons => "Weapons"
  | .techniques => "Techniques"
  | .armourMaterials => "Armour Materials"
  | .armourPieces => "Armour Pieces"
  | .tissueTemplates => "Tissue Templates"
  | .bodyPlans => "Body Plans"
  | .species => "Species"
  | .combatTests => "Combat Tests"

/-- What one record is called where it is referred to. -/
def noun : Dataset → String
  | .weapons => "weapon"
  | .techniques => "technique"
  | .armourMaterials => "material"
  | .armourPieces => "armour piece"
  | .tissueTemplates => "tissue template"
  | .bodyPlans => "body plan"
  | .species => "species"
  | .combatTests => "combat test"

/-- What one record is called where it starts a sentence. -/
def label : Dataset → String
  | .weapons => "Weapon"
  | .techniques => "Technique"
  | .armourMaterials => "Armour material"
  | .armourPieces => "Armour piece"
  | .tissueTemplates => "Tissue template"
  | .bodyPlans => "Body plan"
  | .species => "Species"
  | .combatTests => "Combat test"

/-- The place in display order. -/
def position (d : Dataset) : Nat := all.idxOf d

/-- The place among the audited datasets. -/
def auditedPosition? (d : Dataset) : Option Nat := audited.idxOf? d

/-- The datasets that come before in display order. -/
def before (d : Dataset) : List Dataset := all.take d.position

/-- The dataset of a key. -/
def ofKey? (k : String) : Option Dataset := all.find? fun d => d.key == k

theorem mem_all (d : Dataset) : d ∈ all := by cases d <;> decide

/-- Every dataset is found by its key. -/
theorem ofKey?_key (d : Dataset) : ofKey? d.key = some d := by cases d <;> decide

end Dataset

end CombatContent
