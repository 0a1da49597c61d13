import CombatContent.Audit.AnatomyRules
import CombatContent.Audit.ArmourRules
import CombatContent.Audit.Entry
import CombatContent.Audit.Markdown
import CombatContent.Audit.Policy
import CombatContent.Audit.Report
import CombatContent.Audit.Run
import CombatContent.Audit.TechniqueRule
import CombatContent.Audit.WeaponRule
import CombatContent.CommandLine.Invocation
import CombatContent.CommandLine.Run
import CombatContent.Content
import CombatContent.Content.Anatomy
import CombatContent.Content.Armour
import CombatContent.Content.CombatTest
import CombatContent.Content.Species
import CombatContent.Content.Technique
import CombatContent.Content.Weapon
import CombatContent.Dataset
import CombatContent.Decimal.Binary
import CombatContent.Decimal.Fixed
import CombatContent.Decimal.Numeral
import CombatContent.Decimal.Shortest
import CombatContent.Document
import CombatContent.Draft
import CombatContent.Drift
import CombatContent.Enumeration
import CombatContent.FileAccess
import CombatContent.Folder
import CombatContent.Json.Fault
import CombatContent.Json.Number
import CombatContent.Json.PassOver
import CombatContent.Json.Record
import CombatContent.Json.Text
import CombatContent.Json.Value
import CombatContent.Loading
import CombatContent.Main
import CombatContent.NameSet
import CombatContent.PartOrder
import CombatContent.Proofs.Audit.Findings
import CombatContent.Proofs.Audit.Interleaving
import CombatContent.Proofs.Audit.PartFindings
import CombatContent.Proofs.Audit.ReportRun
import CombatContent.Proofs.Audit.Verdict
import CombatContent.Proofs.Enumeration.GeneratedBlock
import CombatContent.Proofs.Enumeration.LineParts
import CombatContent.Proofs.Enumeration.NameLines
import CombatContent.Proofs.PartOrder.Ancestry
import CombatContent.Proofs.PartOrder.Declarations
import CombatContent.Proofs.PartOrder.Rounds
import CombatContent.Proofs.Zig.ClosedTables
import CombatContent.Proofs.Zig.Columns
import CombatContent.Proofs.Zig.Escapes
import CombatContent.Ron.Lexis
import CombatContent.Ron.Record
import CombatContent.Ron.Value
import CombatContent.Settings
import CombatContent.Text.Blank
import CombatContent.Text.Lines
import CombatContent.Text.Order
import CombatContent.Text.Position
import CombatContent.Text.Quoted
import CombatContent.Text.Scan
import CombatContent.Text.Unprintable
import CombatContent.Toml.DateTime
import CombatContent.Toml.Document
import CombatContent.Toml.Lexis
import CombatContent.Toml.Number
import CombatContent.Toml.Table
import CombatContent.Tree
import CombatContent.Typing.Fault
import CombatContent.Typing.Shape
import CombatContent.Zig.ArmourTables
import CombatContent.Zig.BodyPlanTable
import CombatContent.Zig.CombatTestTable
import CombatContent.Zig.Generated
import CombatContent.Zig.Identifier
import CombatContent.Zig.Literal
import CombatContent.Zig.Quoted
import CombatContent.Zig.SpeciesTable
import CombatContent.Zig.Table
import CombatContent.Zig.TechniqueTable
import CombatContent.Zig.TissueTable
import CombatContent.Zig.Vocabulary
import CombatContent.Zig.WeaponTable
import CombatContent.Proofs.Audit.Calls
import CombatContent.Proofs.Audit.CrossReferences
import CombatContent.Proofs.Zig.Gate
import CombatContent.Proofs.Reordering.Readers
import CombatContent.Proofs.Reordering.Records
import CombatContent.Proofs.Reordering.Drafts
import CombatContent.Proofs.Reordering.Output
import CombatContent.Proofs.Document.Answers
import CombatContent.Proofs.Document.DistinctKeys
import CombatContent.Proofs.Document.Json
import CombatContent.Proofs.Document.Ron
import CombatContent.Proofs.Document.Toml
import CombatContent.Proofs.Document.Reading
import CombatContent.Proofs.Audit.OneDataset
import CombatContent.Proofs.Audit.Conservation
import CombatContent.Proofs.Audit.Sections
import CombatContent.Proofs.Content.NullMembers
import CombatContent.Proofs.CommandLine.Loading
import CombatContent.Proofs.CommandLine.Runs
import CombatContent.Proofs.CommandLine.HeldDocuments
import CombatContent.Proofs.Audit.EntryOrder
import CombatContent.Proofs.Zig.PartTemplates
import CombatContent.Proofs.Zig.Members
import CombatContent.Proofs.Zig.ReadBack
import CombatContent.Proofs.Weapons.Descent
import CombatContent.Proofs.Weapons.PathIds
import CombatContent.Proofs.Enumeration.Layout
import CombatContent.Proofs.Zig.Literals
import CombatContent.Proofs.Zig.RowOrder
import CombatContent.Proofs.Decimal.Numerals
import CombatContent.Proofs.Audit.MarkdownLines
import CombatContent.Proofs.Text.Parts
import CombatContent.Proofs.Audit.MarkdownReadBack
import CombatContent.Proofs.Audit.SummaryTotals
import CombatContent.Proofs.Decimal.Places
import CombatContent.Proofs.Zig.Numbers
import CombatContent.Proofs.Content.Nesting
import CombatContent.Proofs.Zig.AuditedNumbers
