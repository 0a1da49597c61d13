import CombatContent.Drift
import CombatContent.Zig.ArmourTables
import CombatContent.Zig.BodyPlanTable
import CombatContent.Zig.CombatTestTable
import CombatContent.Zig.SpeciesTable
import CombatContent.Zig.TechniqueTable
import CombatContent.Zig.TissueTable
import CombatContent.Zig.WeaponTable

/-!
# The generated file

The file opens with a banner and the modules that the tables use. A section follows for every
dataset with records, and one for the technique ids if there are any. Nothing is generated from
content with a malformed record, nor when the technique ids have drifted.

## Main definitions

* `render`: the text of the file.
* `generate`: the text of the file, or why it is refused.

## Main statements

* `generate_of_malformed`, `generate_of_malformed_eq_nil`: what becomes of content.
* `generate_eq_ok_iff`: what is generated, and when.
-/

namespace CombatContent.Zig

/-- The lines in front of the sections. -/
def heading : List String := [
  "// AUTO-GENERATED BY armoury",
  "// DO NOT EDIT MANUALLY.",
  "",
  "const damage = @import(\"../domain/damage.zig\");",
  "const stats = @import(\"../domain/stats.zig\");",
  "const body = @import(\"../domain/body.zig\");",
  "const armour = @import(\"../domain/armour.zig\");",
  "const inventory = @import(\"../domain/inventory.zig\");",
  ""]

/-- The line that stands for the sections when there are none. -/
def noDataLine : String :=
  "// No weapons, techniques, biological, armour, or test data found in input."

/-- The table of one dataset, also when it has no rows. -/
def tableOf (c : Content) : Dataset → Table
  | .weapons => weaponTable c.weapons
  | .techniques => techniqueTable c.techniques
  | .armourMaterials => armourMaterialTable c.armourMaterials
  | .armourPieces => armourPieceTable c.armourPieces
  | .tissueTemplates => tissueTable c.tissueTemplates
  | .bodyPlans => bodyPlanTable c.bodyPlans
  | .species => speciesTable c.species
  | .combatTests => combatTestTable c.combatTests

/-- The datasets in the order of their sections. -/
def sectionOrder : List Dataset :=
  [.weapons, .techniques, .tissueTemplates, .bodyPlans, .species, .armourMaterials,
    .armourPieces, .combatTests]

/-- The tables that have a section. -/
def tables (c : Content) : List Table :=
  (sectionOrder.filter fun d => c.count d != 0).map (tableOf c)

/-- The texts of the sections. -/
def sections (c : Content) (ids : NameSet) : List String :=
  (if ids.isEmpty then [] else [techniqueIdText ids]) ++ (tables c).map Table.text

/-- The text of the file for content and an enumeration of technique ids. -/
def render (c : Content) (ids : NameSet) : String :=
  let parts := sections c ids
  Text.unlines heading ++
    if parts.isEmpty then Text.unlines [noDataLine] else "\n".intercalate parts

/-- Why a file is not generated. -/
inductive Refusal where
  | malformed (record : Malformed)
  | drift (drift : Drift)

/-- What a refusal is reported as. -/
def Refusal.message : Refusal → String
  | .malformed m => m.message
  | .drift d => d.message

/-- The text of the file, unless a record is malformed or the technique ids have drifted from the
committed ones. -/
def generate (c : Content) (committed : Option NameSet) : Except Refusal String :=
  match c.malformed with
  | m :: _ => .error (.malformed m)
  | [] =>
    match Drift.check c.techniqueIds committed with
    | .error d => .error (.drift d)
    | .ok _ => .ok (render c c.techniqueIds)

/-- The first malformed record refuses the file, whatever the committed ids are. -/
theorem generate_of_malformed {c : Content} {m : Malformed} {ms : List Malformed}
    (h : c.malformed = m :: ms) (committed : Option NameSet) :
    generate c committed = .error (.malformed m) := by
  rw [generate, h]

/-- Content without malformed records is generated just if it has no technique ids, or no committed
ones to compare with, or the same; and is refused otherwise for the difference. -/
theorem generate_of_malformed_eq_nil {c : Content} (h : c.malformed = [])
    (committed : Option NameSet) :
    generate c committed =
      match committed with
      | none => .ok (render c c.techniqueIds)
      | some ids =>
        if c.techniqueIds.isEmpty = true ∨ ids = c.techniqueIds then .ok (render c c.techniqueIds)
        else .error (.drift ⟨ids.diff c.techniqueIds, c.techniqueIds.diff ids⟩) := by
  rw [generate, h]
  cases committed with
  | none => rfl
  | some ids =>
    cases hempty : c.techniqueIds.isEmpty with
    | true => simp [Drift.check, hempty]
    | false => by_cases heq : ids = c.techniqueIds <;> simp [Drift.check_some hempty, heq]

/-- A file is generated just if no record is malformed and the technique ids are not found to have
drifted. -/
theorem generate_eq_ok_iff {c : Content} {text : String} {committed : Option NameSet} :
    generate c committed = .ok text ↔
      c.malformed = [] ∧
        (committed = none ∨ c.techniqueIds.isEmpty = true ∨ committed = some c.techniqueIds) ∧
        text = render c c.techniqueIds := by
  cases hm : c.malformed with
  | cons m ms => simp [generate_of_malformed hm]
  | nil =>
    rw [generate_of_malformed_eq_nil hm]
    cases committed with
    | none => simp only [Except.ok.injEq, true_or, true_and, eq_comm (b := text)]
    | some ids =>
      by_cases h : c.techniqueIds.isEmpty = true ∨ ids = c.techniqueIds
      · simp only [↓reduceIte, Except.ok.injEq, reduceCtorEq, Option.some.injEq, false_or, h,
          true_and, eq_comm (b := text)]
      · simp only [↓reduceIte, reduceCtorEq, Option.some.injEq, false_or, h, false_and,
          and_false]

end CombatContent.Zig
