import CombatContent.Proofs.PartOrder.Rounds
import CombatContent.Proofs.Zig.Tidy

/-!
# The names that records give

Members of the host's types are named by words of the records: heights, kinds of damage, stats, and
tags of parts. Sides, totalities, layers and the fallback stat are words of closed lists. No other
string of a record is written as a member, and no string as a label.

## Main definitions

* `Technique.names`, `ArmourPiece.names`, `BodyPlan.names`, `Species.names`, `Content.names`: the
  words that are written as members.
* `Zig.closedWords`: the words of the closed lists.

## Main results

* `Zig.forall_tables_isTidy_iff`: the tables of content are tidy, with its names for members.
-/

namespace CombatContent

/-- The heights that a technique gives. -/
def Technique.heights (t : Technique) : List String :=
  [t.targetHeight, t.secondaryHeight, t.guardHeight].flatMap fun h => h.toList.filter (· ≠ "")

/-- The stats that a scaling names. -/
def ScalingStats.names (s : ScalingStats) : List String :=
  match s.stat, s.average with
  | some word, _ => [word]
  | none, [a, b] => [a, b]
  | none, _ => []

/-- The words of a technique that are written as members. -/
def Technique.names (t : Technique) : List String :=
  t.heights ++ t.damage.instances.flatMap DamageInstance.types ++ t.damage.scaling.stats.names

/-- The words of a piece of armour that are written as members. -/
def ArmourPiece.names (p : ArmourPiece) : List String := p.coverage.flatMap Coverage.partTags

/-- The words of a body plan that are written as members. -/
def BodyPlan.names (p : BodyPlan) : List String :=
  (Zig.orderedParts p).map fun part => part.2.tag

/-- The words of a species that are written as members. -/
def Species.names (s : Species) : List String := s.naturalWeapons.map NaturalWeapon.requiredPart

/-- The words of the records of a dataset that are written as members. -/
def Content.namesIn (c : Content) : Dataset → List String
  | .techniques => c.techniques.flatMap fun r => r.data.names
  | .armourPieces => c.armourPieces.flatMap fun r => r.data.names
  | .bodyPlans => c.bodyPlans.flatMap fun r => r.data.names
  | .species => c.species.flatMap fun r => r.data.names
  | _ => []

/-- The words of content that are written as members. -/
def Content.names (c : Content) : List String := Dataset.all.flatMap c.namesIn

namespace Zig

open Text Enumeration

variable {P : String → Prop}

/-- The words of the closed lists. -/
def closedWords : List String := [
  "left", "right", "none", "center", "total", "intimidating", "comprehensive", "frontal",
  "minimal", "Gambeson", "Cloak", "Plate", "power"]

/-! ### Vocabulary -/

theorem isTidy_height_iff {h : Option String} :
    (height h).IsTidy P ↔ ∀ word ∈ h, word ≠ "" → P word := by
  rcases h with _ | word
  · simp [height]
  · by_cases hempty : word = "" <;> simp +decide [height, hempty]

theorem isTidy_partTag_iff {tag : String} : (partTag tag).IsTidy P ↔ P tag := by
  simp +decide [partTag]

theorem isTidy_damageTypes_iff {words : List String} :
    (damageTypes words).IsTidy P ↔ ∀ word ∈ words, P word := by
  simp +decide [damageTypes]

theorem isTidy_side (hP : ∀ word ∈ closedWords, P word) (word : String) : (side word).IsTidy P := by
  refine .member (by decide) (hP _ ?_)
  split
  · next h =>
    have hknown : ∀ known ∈ ["left", "right", "none"], known ∈ closedWords := by decide
    exact hknown _ (List.contains_iff_mem.mp h)
  · decide

theorem isTidy_totality (hP : ∀ word ∈ closedWords, P word) (word : String) :
    (totality word).IsTidy P := by
  refine .member (by decide) (hP _ ?_)
  split
  · next h =>
    have hknown : ∀ known ∈ ["total", "intimidating", "comprehensive", "frontal", "minimal"],
        known ∈ closedWords := by decide
    exact hknown _ (List.contains_iff_mem.mp h)
  · decide

theorem isTidy_armourLayer (hP : ∀ word ∈ closedWords, P word) (word : String) :
    (armourLayer word).IsTidy P := by
  refine .member (by decide) (hP _ ?_)
  split
  · decide
  · split <;> decide

/-- Named truth values are tidy if their names are words. -/
theorem isTidy_record_booleans {flags : List (String × Bool)}
    (h : ∀ flag ∈ flags, isWord flag.1.toList = true) :
    (Literal.record (flags.map fun flag => (flag.1, .boolean flag.2))).IsTidy P := by
  refine .record (List.forall_mem_map.mpr h) (List.forall_mem_map.mpr fun flag _ => ?_)
  exact .boolean flag.2

theorem isTidy_partFlags (f : PartFlags) : (partFlags f).IsTidy P := by
  have hwords : ∀ flag ∈ namedFlags f, isWord flag.1.toList = true := by simp +decide [namedFlags]
  refine .record (List.forall_mem_map.mpr fun flag hflag => ?_) (List.forall_mem_map.mpr ?_)
  · exact hwords flag (List.mem_of_mem_filter hflag)
  · exact fun _ _ => .boolean true

theorem isTidy_scalingStats_iff (hP : ∀ word ∈ closedWords, P word) {s : ScalingStats} :
    (scalingStats s).IsTidy P ↔ ∀ word ∈ s.names, P word := by
  have hpower : P "power" := hP _ (by decide)
  rcases s with ⟨_ | word, _ | ⟨a, _ | ⟨b, _ | ⟨c, rest⟩⟩⟩⟩ <;>
    simp +decide [scalingStats, ScalingStats.names, stat, hpower]

/-! ### Fields that may be left out -/

theorem isTidy_givenField {α : Type} {name : String} {f : α → Literal} {value : Option α}
    (hname : isWord name.toList = true) (hf : ∀ a, (f a).IsTidy P) :
    ∀ e ∈ givenField name f value, e.IsTidy P := by
  cases value with
  | none => exact List.forall_mem_nil _
  | some a => exact List.forall_mem_singleton.mpr (.field hname (hf a))

theorem isTidy_givenFields {α : Type} {f : α → Literal} {fields : List (String × Option α)}
    (hnames : ∀ field ∈ fields, isWord field.1.toList = true) (hf : ∀ a, (f a).IsTidy P) :
    ∀ e ∈ givenFields f fields, e.IsTidy P := by
  intro e he
  obtain ⟨field, hfield, he⟩ := List.mem_flatMap.mp he
  exact isTidy_givenField (hnames field hfield) hf e he

/-! ### Rows -/

theorem isTidy_weaponRow (r : Record Weapon) : ∀ e ∈ weaponRow r, e.IsTidy P := by
  simp +decide [weaponRow]

theorem isTidy_damageInstance_iff {d : DamageInstance} :
    (damageInstance d).IsTidy P ↔ ∀ word ∈ d.types, P word := by
  simp +decide [damageInstance, isTidy_damageTypes_iff]

theorem isTidy_scaling_iff (hP : ∀ word ∈ closedWords, P word) {s : Scaling} :
    (scaling s).IsTidy P ↔ ∀ word ∈ s.stats.names, P word := by
  simp +decide [scaling, isTidy_scalingStats_iff hP]

theorem isTidy_channels (c : Channels) :
    (Literal.record (c.named.map fun channel => (channel.1, .boolean channel.2))).IsTidy P :=
  isTidy_record_booleans (by simp +decide [Channels.named])

theorem isTidy_techniqueRow_iff (hP : ∀ word ∈ closedWords, P word) {r : Record Technique} :
    (∀ e ∈ techniqueRow r, e.IsTidy P) ↔ ∀ word ∈ r.data.names, P word := by
  have hheights : (∀ word ∈ r.data.heights, P word) ↔
      (height r.data.targetHeight).IsTidy P ∧ (height r.data.secondaryHeight).IsTidy P ∧
        (height r.data.guardHeight).IsTidy P := by
    rw [Technique.heights, List.forall_mem_flatMap]
    simp [isTidy_height_iff]
  have hitem (d : DamageInstance) :
      (Entry.item (damageInstance d)).IsTidy P ↔ ∀ word ∈ d.types, P word :=
    Entry.isTidy_item_record_iff.trans isTidy_damageInstance_iff
  rw [Technique.names, List.forall_mem_append, List.forall_mem_append, hheights,
    List.forall_mem_flatMap]
  simp +decide [techniqueRow, hitem, isTidy_scaling_iff hP, isTidy_channels, and_assoc,
    -Literal.isTidy_record_iff]

theorem isTidy_armourMaterialRow (r : Record ArmourMaterial) :
    ∀ e ∈ armourMaterialRow r, e.IsTidy P := by
  cases hform : r.data.form <;> simp +decide [armourMaterialRow, hform]

theorem isTidy_armourPieceRow_iff (hP : ∀ word ∈ closedWords, P word) {r : Record ArmourPiece} :
    (∀ e ∈ armourPieceRow r, e.IsTidy P) ↔ ∀ word ∈ r.data.names, P word := by
  have hcoverage (c : Coverage) :
      (∀ e ∈ coverageRow c, e.IsTidy P) ↔ ∀ tag ∈ c.partTags, P tag := by
    simp +decide [coverageRow, isTidy_partTag_iff, isTidy_side hP, isTidy_totality hP,
      isTidy_armourLayer hP]
  rw [ArmourPiece.names, List.forall_mem_flatMap]
  simp +decide [armourPieceRow, hcoverage]

theorem isTidy_tissueTemplateRow (r : Record TissueTemplate) :
    ∀ e ∈ tissueTemplateRow r, e.IsTidy P := by
  have hlayer (l : TissueLayer) : (Entry.row (tissueLayerRow l)).IsTidy P := by
    simp +decide [tissueLayerRow]
  cases hnotes : r.data.notes.isEmpty <;>
    simp +decide [tissueTemplateRow, hnotes, hlayer, -Entry.isTidy_row_iff]

theorem isTidy_bodyPartRow_iff (hP : ∀ word ∈ closedWords, P word) {name : String} {p : BodyPart} :
    (∀ e ∈ bodyPartRow name p, e.IsTidy P) ↔ P p.tag := by
  have hparent : ∀ e ∈ givenField "parent" .string p.parent, e.IsTidy P :=
    isTidy_givenField (by decide) .string
  have henclosing : ∀ e ∈ givenField "enclosing" .string p.enclosing, e.IsTidy P :=
    isTidy_givenField (by decide) .string
  have hartery : ∀ e ∈ (if p.hasMajorArtery then
      [Entry.field "has_major_artery" (.boolean true)] else []), e.IsTidy P := by
    cases p.hasMajorArtery <;> simp +decide
  simp only [bodyPartRow, List.forall_mem_append, eq_true hparent, eq_true henclosing,
    eq_true hartery]
  simp +decide [isTidy_partTag_iff, isTidy_side hP, isTidy_partFlags]

theorem isTidy_bodyPlanRow_iff (hP : ∀ word ∈ closedWords, P word) {r : Record BodyPlan} :
    (∀ e ∈ bodyPlanRow r, e.IsTidy P) ↔ ∀ word ∈ r.data.names, P word := by
  have hparts : (∀ e ∈ (orderedParts r.data).map fun part => Entry.row (bodyPartRow part.1 part.2),
      e.IsTidy P) ↔ ∀ word ∈ r.data.names, P word := by
    rw [BodyPlan.names, List.forall_mem_map, List.forall_mem_map]
    exact forall₂_congr fun _ _ => Entry.isTidy_row_iff.trans (isTidy_bodyPartRow_iff hP)
  rw [← hparts]
  simp +decide [bodyPlanRow, -List.mem_map]

theorem isTidy_speciesRow_iff {r : Record Species} :
    (∀ e ∈ speciesRow r, e.IsTidy P) ↔ ∀ word ∈ r.data.names, P word := by
  have hnumbers : ∀ e ∈ givenFields .number (openNumbers r.data), e.IsTidy P :=
    isTidy_givenFields (by simp +decide [openNumbers]) .number
  have hweapon (n : NaturalWeapon) :
      (Entry.item (naturalWeapon n)).IsTidy P ↔ P n.requiredPart := by
    simp +decide [naturalWeapon, isTidy_partTag_iff]
  rw [Species.names, List.forall_mem_map]
  simp only [speciesRow, List.forall_mem_append, eq_true hnumbers]
  simp +decide [hweapon, Literal.strings]

theorem isTidy_combatTestRow (r : Record CombatTest) : ∀ e ∈ combatTestRow r, e.IsTidy P := by
  have hattacker : ∀ e ∈ attackerEntries r.data.attacker, e.IsTidy P := by
    refine List.forall_mem_append.mpr ⟨by simp +decide, ?_⟩
    exact isTidy_givenFields (by simp +decide) .number
  have hdefender : ∀ e ∈ defenderEntries r.data.defender, e.IsTidy P := by
    simp +decide [defenderEntries, Literal.strings]
  have hexpected : ∀ e ∈ expectationEntries r.data.expected, e.IsTidy P := by
    simp only [expectationEntries, List.forall_mem_append]
    exact ⟨⟨⟨isTidy_givenField (by decide) .string, isTidy_givenFields (by simp +decide) .number⟩,
      isTidy_givenField (by decide) .boolean⟩,
      isTidy_givenFields (by simp +decide) fun _ => .integer _⟩
  simp +decide [combatTestRow, eq_true hattacker, eq_true hdefender, eq_true hexpected]

/-! ### Tables -/

variable {c : Content}

/-- No line of the types of a table has a line feed. -/
theorem newline_notMem_declaration (d : Dataset) :
    ∀ line ∈ (tableOf {} d).declaration, '\n' ∉ line.toList := by
  cases d <;>
    simp only [tableOf, weaponTable, weaponDeclaration, techniqueTable, techniqueDeclaration,
      armourMaterialTable, armourMaterialDeclaration, armourPieceTable, armourPieceDeclaration,
      tissueTable, tissueDeclaration, bodyPlanTable, bodyPlanDeclaration, speciesTable,
      speciesDeclaration, combatTestTable, combatTestDeclaration]
  all_goals
    repeat refine List.forall_mem_cons.mpr ⟨feedFree_ofList (by decide), ?_⟩
    exact List.forall_mem_nil _

/-- The names of a table and of its rows have no line feed. -/
theorem newline_notMem_tableNames (d : Dataset) :
    '\n' ∉ (tableOf {} d).name.toList ∧ '\n' ∉ (tableOf {} d).rowType.toList := by
  cases d <;> exact ⟨feedFree_ofList (by decide), feedFree_ofList (by decide)⟩

/-- The table of a dataset is tidy if its rows are. -/
theorem isTidy_tableOf_iff {d : Dataset} :
    (tableOf c d).IsTidy P ↔ ∀ row ∈ (tableOf c d).rows, ∀ e ∈ row, e.IsTidy P := by
  -- What stands in front of the rows is the same for all content.
  have hdeclaration : (tableOf c d).declaration = (tableOf {} d).declaration := by cases d <;> rfl
  have hname : (tableOf c d).name = (tableOf {} d).name := by cases d <;> rfl
  have hrowType : (tableOf c d).rowType = (tableOf {} d).rowType := by cases d <;> rfl
  refine ⟨fun h => h.rows, fun h => ⟨?_, ?_, h⟩⟩
  · rw [hdeclaration]
    exact newline_notMem_declaration d
  · obtain ⟨hfreeName, hfreeType⟩ := newline_notMem_tableNames d
    rw [hname, hrowType]
    simp only [String.toList_append, List.mem_append, not_or]
    exact ⟨⟨⟨⟨by decide, hfreeName⟩, by decide⟩, hfreeType⟩, by decide⟩

/-- The table of a dataset is tidy, with the words that its records give for members. -/
theorem isTidy_tableOf_iff_namesIn (hP : ∀ word ∈ closedWords, P word) {d : Dataset} :
    (tableOf c d).IsTidy P ↔ ∀ word ∈ c.namesIn d, P word := by
  rw [isTidy_tableOf_iff]
  cases d with
  | weapons =>
    exact iff_of_true (List.forall_mem_map.mpr fun r _ => isTidy_weaponRow r)
      (List.forall_mem_nil _)
  | techniques =>
    refine List.forall_mem_map.trans (Iff.trans ?_ List.forall_mem_flatMap.symm)
    exact forall₂_congr fun _ _ => isTidy_techniqueRow_iff hP
  | armourMaterials =>
    exact iff_of_true (List.forall_mem_map.mpr fun r _ => isTidy_armourMaterialRow r)
      (List.forall_mem_nil _)
  | armourPieces =>
    refine List.forall_mem_map.trans (Iff.trans ?_ List.forall_mem_flatMap.symm)
    exact forall₂_congr fun _ _ => isTidy_armourPieceRow_iff hP
  | tissueTemplates =>
    exact iff_of_true (List.forall_mem_map.mpr fun r _ => isTidy_tissueTemplateRow r)
      (List.forall_mem_nil _)
  | bodyPlans =>
    refine List.forall_mem_map.trans (Iff.trans ?_ List.forall_mem_flatMap.symm)
    exact forall_congr' fun _ => imp_congr (mem_sortedBy Record.id) (isTidy_bodyPlanRow_iff hP)
  | species =>
    refine List.forall_mem_map.trans (Iff.trans ?_ List.forall_mem_flatMap.symm)
    exact forall_congr' fun _ => imp_congr (mem_sortedBy Record.id) isTidy_speciesRow_iff
  | combatTests =>
    exact iff_of_true (List.forall_mem_map.mpr fun r _ => isTidy_combatTestRow r)
      (List.forall_mem_nil _)

/-- The tables of content are tidy, with the words that its records give for members. -/
theorem forall_tables_isTidy_iff (hP : ∀ word ∈ closedWords, P word) :
    (∀ t ∈ tables c, t.IsTidy P) ↔ ∀ word ∈ c.names, P word := by
  -- A table without a section has no rows.
  have hrows (d : Dataset) : (tableOf c d).rows.length = c.count d := by
    cases d <;> simp [tableOf, weaponTable, techniqueTable, armourMaterialTable, armourPieceTable,
      tissueTable, bodyPlanTable, speciesTable, combatTestTable, Content.count,
      (perm_sortedBy _ _).length_eq]
  have hall : (∀ t ∈ tables c, t.IsTidy P) ↔ ∀ d ∈ Dataset.all, (tableOf c d).IsTidy P := by
    rw [tables, List.forall_mem_map, List.forall_mem_filter]
    refine ⟨fun h d _ => ?_, fun h d _ _ => h d (by cases d <;> decide)⟩
    by_cases hcount : c.count d = 0
    · rw [isTidy_tableOf_iff, List.eq_nil_of_length_eq_zero ((hrows d).trans hcount)]
      exact List.forall_mem_nil _
    · exact h d (by cases d <;> decide) (by simpa using hcount)
  rw [hall, Content.names, List.forall_mem_flatMap]
  exact forall₂_congr fun _ _ => isTidy_tableOf_iff_namesIn hP

end Zig

end CombatContent
