import CombatContent.Content.Anatomy
import CombatContent.Content.CombatTest
import CombatContent.Content.Species
import CombatContent.Content.Technique
import CombatContent.Content.Weapon
import CombatContent.Draft
import CombatContent.NameSet

/-!
# Typed content

Every draft of a document is typed on its own, after the null members of its maps have been
removed. What cannot be typed is set aside with its fault, in dataset order and then in the order of
the drafts, and everything else goes on.
-/

namespace CombatContent

/-- A typed record with its id. -/
structure Record (α : Type) where
  id : String
  data : α

/-- A draft that could not be typed. -/
structure Malformed where
  dataset : Dataset
  id : String
  fault : Typing.Fault

/-- What a malformed record is reported as. -/
def Malformed.message (m : Malformed) : String :=
  "malformed " ++ m.dataset.key ++ " record '" ++ m.id ++ "': " ++ m.fault.message

namespace Draft

variable {α : Type} (read : Typing.Reader α)

/-- Types a draft. -/
def typed (d : Draft) : Except Typing.Fault (Record α) :=
  (read d.node.dropNulls).map fun data => ⟨d.id, data⟩

/-- The drafts that can be typed, typed. -/
def records (ds : List Draft) : List (Record α) :=
  ds.filterMap fun d =>
    match d.typed read with
    | .ok r => some r
    | .error _ => none

/-- The drafts that cannot be typed, with their faults. -/
def malformed (dataset : Dataset) (ds : List Draft) : List Malformed :=
  ds.filterMap fun d =>
    match d.typed read with
    | .ok _ => none
    | .error fault => some ⟨dataset, d.id, fault⟩

end Draft

/-- All datasets of a document. -/
structure Content where
  weapons : List (Record Weapon) := []
  techniques : List (Record Technique) := []
  armourMaterials : List (Record ArmourMaterial) := []
  armourPieces : List (Record ArmourPiece) := []
  tissueTemplates : List (Record TissueTemplate) := []
  bodyPlans : List (Record BodyPlan) := []
  species : List (Record Species) := []
  combatTests : List (Record CombatTest) := []
  malformed : List Malformed := []

namespace Content

/-- The drafts of one dataset that cannot be typed. -/
def malformedIn (document : Tree) (dataset : Dataset) : List Malformed :=
  let drafts := Draft.ofDocument document dataset
  match dataset with
  | .weapons => Draft.malformed Weapon.shape.read dataset drafts
  | .techniques => Draft.malformed Technique.shape.read dataset drafts
  | .armourMaterials => Draft.malformed ArmourMaterial.shape.read dataset drafts
  | .armourPieces => Draft.malformed ArmourPiece.shape.read dataset drafts
  | .tissueTemplates => Draft.malformed TissueTemplate.shape.read dataset drafts
  | .bodyPlans => Draft.malformed BodyPlan.shape.read dataset drafts
  | .species => Draft.malformed Species.shape.read dataset drafts
  | .combatTests => Draft.malformed CombatTest.shape.read dataset drafts

/-- The content of a document. -/
def ofDocument (document : Tree) : Content where
  weapons := Draft.records Weapon.shape.read (Draft.ofDocument document .weapons)
  techniques := Draft.records Technique.shape.read (Draft.ofDocument document .techniques)
  armourMaterials :=
    Draft.records ArmourMaterial.shape.read (Draft.ofDocument document .armourMaterials)
  armourPieces := Draft.records ArmourPiece.shape.read (Draft.ofDocument document .armourPieces)
  tissueTemplates :=
    Draft.records TissueTemplate.shape.read (Draft.ofDocument document .tissueTemplates)
  bodyPlans := Draft.records BodyPlan.shape.read (Draft.ofDocument document .bodyPlans)
  species := Draft.records Species.shape.read (Draft.ofDocument document .species)
  combatTests := Draft.records CombatTest.shape.read (Draft.ofDocument document .combatTests)
  malformed := Dataset.all.flatMap (malformedIn document)

/-- How many typed records a dataset has. -/
def count (c : Content) : Dataset → Nat
  | .weapons => c.weapons.length
  | .techniques => c.techniques.length
  | .armourMaterials => c.armourMaterials.length
  | .armourPieces => c.armourPieces.length
  | .tissueTemplates => c.tissueTemplates.length
  | .bodyPlans => c.bodyPlans.length
  | .species => c.species.length
  | .combatTests => c.combatTests.length

/-- Whether there is no record at all, typed or malformed. -/
def isEmpty (c : Content) : Bool :=
  c.malformed.isEmpty && Dataset.all.all fun d => c.count d == 0

/-- The ids of the techniques, without an empty one. -/
def techniqueIds (c : Content) : NameSet :=
  NameSet.ofList ((c.techniques.map Record.id).filter fun id => !id.isEmpty)

end Content

end CombatContent
