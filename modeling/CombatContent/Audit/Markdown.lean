import CombatContent.Audit.Report
import CombatContent.Decimal.Fixed
import CombatContent.Text.Lines

/-!
# Reports in Markdown

A report opens with its summary and verdict. Then come the errors about references, and a section
for each dataset with entries: those with findings one by one, and the clean ones as one table. The
text depends on the report alone.
-/

namespace CombatContent.Audit

/-- The cells of a row of a table. -/
def tableRow (cells : List String) : String := "| " ++ " | ".intercalate cells ++ " |"

/-- The lines of the summary. -/
def summaryLines (r : Report) : List String :=
  ["## Summary", "", "| Dataset | Total | With Warnings | With Errors |",
    "|---------|-------|---------------|-------------|"] ++
  (r.summary.map fun row =>
    tableRow [row.dataset.key, toString row.total, toString row.withWarnings,
      toString row.withErrors]) ++
  [""]

/-- The line of the verdict. -/
def statusLine (r : Report) : String :=
  match r.status with
  | .failed =>
    "**STATUS: FAILED** - " ++ toString r.errorCount ++ " error(s), " ++
      toString r.warningCount ++ " warning(s)"
  | .passedWithWarnings =>
    "**STATUS: PASSED with warnings** - " ++ toString r.warningCount ++ " warning(s)"
  | .passed => "**STATUS: PASSED** - All validations passed"

/-- The lines about references. -/
def crossReferenceLines (r : Report) : List String :=
  if r.crossReferenceErrors.isEmpty then []
  else
    ["## Cross-Reference Errors", ""] ++ r.crossReferenceErrors.map ("- " ++ ·) ++ [""]

/-- The lines of an entry's fields. -/
def fieldLines (e : Entry) : List String :=
  if e.fields.isEmpty then []
  else
    ["Fields:", "```"] ++ (e.fields.map fun f => "  " ++ f.1 ++ ": " ++ f.2.display) ++ ["```", ""]

/-- The lines of an entry with findings. -/
def issueLines (e : Entry) : List String :=
  ["#### `" ++ e.id ++ "`", ""] ++ e.errors.map ("- **ERROR**: " ++ ·) ++
    e.warnings.map ("- WARNING: " ++ ·) ++ [""] ++ fieldLines e

/-- The head of the table of a dataset's clean entries. -/
def cleanHead : Dataset → List String
  | .weapons =>
    ["| ID | MoI | Eff.Mass | RefEnergy | Geometry | Rigidity |",
      "|----|-----|----------|-----------|----------|----------|"]
  | .techniques =>
    ["| ID | Mode | Geo | Energy | Rigid | Channels |",
      "|----|------|-----|--------|-------|----------|"]
  | .armourMaterials =>
    ["| ID | Defl | Abs | Disp | GeoThr | EnerThr | RigThr |",
      "|----|------|-----|------|--------|---------|--------|"]
  | .armourPieces =>
    ["| ID | Material | Coverage Count |", "|----|----------|----------------|"]
  | .tissueTemplates =>
    ["| ID | Layers | Thickness Sum |", "|----|--------|---------------|"]
  | .bodyPlans => ["| ID | Parts | Height | Mass |", "|----|-------|--------|------|"]
  | .species => []
  | .combatTests => []

/-- The channels in a table, or a dash. -/
def channelsCell (channels : List String) : String :=
  if channels.isEmpty then "-" else ",".intercalate channels

/-- The cells of a clean entry. -/
def cleanCells (e : Entry) : List String :=
  let fixed (places : Nat) (name : String) := Decimal.fixed places (e.number name)
  let plain (name : String) := Decimal.text (e.number name)
  match e.dataset with
  | .weapons =>
    [e.id, fixed 3 "moment_of_inertia", fixed 2 "effective_mass", fixed 1 "reference_energy_j",
      fixed 2 "geometry_coeff", fixed 2 "rigidity_coeff"]
  | .techniques =>
    [e.id, (e.text? "attack_mode").getD "-", fixed 2 "axis_geometry_mult",
      fixed 2 "axis_energy_mult", fixed 2 "axis_rigidity_mult", channelsCell (e.list "channels")]
  | .armourMaterials =>
    [e.id, fixed 2 "deflection", fixed 2 "absorption", fixed 2 "dispersion",
      fixed 1 "geometry_threshold", fixed 1 "energy_threshold", fixed 1 "rigidity_threshold"]
  | .armourPieces => [e.id, (e.text? "material_id").getD "-", plain "coverage_count"]
  | .tissueTemplates => [e.id, plain "layer_count", fixed 3 "thickness_sum"]
  | .bodyPlans =>
    [e.id, plain "part_count", fixed 0 "base_height_cm" ++ "cm", fixed 1 "base_mass_kg" ++ "kg"]
  | .species => []
  | .combatTests => []

/-- The lines of a dataset's clean entries. Species and combat tests are only counted. -/
def cleanTable (dataset : Dataset) (clean : List Entry) : List String :=
  match dataset with
  | .species => ["_" ++ toString clean.length ++ " entries_"]
  | .combatTests => ["_" ++ toString clean.length ++ " entries_"]
  | _ => cleanHead dataset ++ clean.map fun e => tableRow (cleanCells e)

/-- The lines of a dataset's section, given its entries. -/
def sectionLines (dataset : Dataset) (es : List Entry) : List String :=
  let issues := es.filter fun e => !e.isClean
  let clean := es.filter Entry.isClean
  if es.isEmpty then []
  else
    ["## " ++ dataset.title, ""] ++
    (if issues.isEmpty then [] else ["### Issues", ""] ++ issues.flatMap issueLines) ++
    (if clean.isEmpty then []
      else ["### Valid Entries", ""] ++ cleanTable dataset clean ++ [""])

/-- The lines of a report. -/
def markdownLines (r : Report) : List String :=
  ["# Data Audit Report", ""] ++ summaryLines r ++ [statusLine r, ""] ++ crossReferenceLines r ++
    Dataset.all.flatMap fun d => sectionLines d (r.entriesOf d)

/-- A report in Markdown. -/
def markdown (r : Report) : String := Text.unlines (markdownLines r)

end CombatContent.Audit
