import CombatContent.Audit.Run
import CombatContent.Proofs.Audit.ReportRun

/-!
# What the rules find in a record

Each rule gives an entry from one record. Here it is said of the record alone when its entry has a
warning, when it has an error, and to which records it refers.

## Main definitions

* `Weapon.HasZero`, `Technique.IsSparse`, `ArmourMaterial.IsImplausible`,
  `ArmourPiece.HasUntaggedCoverage`, `TissueTemplate.IsUneven`, `BodyPlan.HasFlatPart`: what is
  worth a warning.
* `ArmourPiece.IsIncomplete`, `TissueTemplate.IsIncomplete`, `BodyPlan.IsIncomplete`: what is an
  error of the record itself.

## Main results

* `Audit.hasWarnings_weaponEntry` and its like for the other five datasets.
* `Audit.hasErrors_armourPieceEntry`, `Audit.hasErrors_tissueTemplateEntry`,
  `Audit.hasErrors_bodyPlanEntry`; the other rules find no errors.
* `Audit.refers_armourPieceEntry`, `Audit.refers_bodyPlanEntry`; the entries of other records
  refer to no records.
-/

namespace CombatContent

/-! ### What is worth a warning -/

/-- One of the five coefficients, the weight or the length is zero. -/
def Weapon.HasZero (w : Weapon) : Prop :=
  ∃ x ∈ [w.physics.momentOfInertia, w.physics.effectiveMass, w.physics.referenceEnergy,
    w.physics.geometry, w.physics.rigidity, w.weight, w.length], (x == 0.0) = true

/-- The bias or one of its multipliers is not given, or an attack occupies no channel. -/
def Technique.IsSparse (t : Technique) : Prop :=
  t.axisBias = none ∨
    (∃ b, t.axisBias = some b ∧ (b.geometry = none ∨ b.energy = none ∨ b.rigidity = none)) ∨
    (t.attackMode ≠ "none" ∧
      t.channels.weapon = false ∧ t.channels.offHand = false ∧ t.channels.footwork = false)

/-- The shielding coefficients are above one and a half in sum, or some axis has a ratio below one
without a threshold above zero. -/
def ArmourMaterial.IsImplausible (m : ArmourMaterial) : Prop :=
  m.shielding.deflection + m.shielding.absorption + m.shielding.dispersion > 1.5 + 1e-9 ∨
    ∃ axis, ((m.susceptibility.on axis).threshold.getD 0.0 == 0.0) = true ∧
      (m.susceptibility.on axis).ratio.getD 1.0 < 1.0

/-- Some coverage has no part tags. -/
def ArmourPiece.HasUntaggedCoverage (p : ArmourPiece) : Prop :=
  ∃ k ∈ p.coverage, k.partTags = []

/-- The thickness ratios are further from one in sum than the tolerance. -/
def TissueTemplate.IsUneven (t : TissueTemplate) : Prop :=
  (t.thicknessSum - 1.0).abs > 0.05 + 1e-9

/-- Some part has no measures, or no thickness. -/
def BodyPlan.HasFlatPart (p : BodyPlan) : Prop :=
  ∃ part ∈ p.parts, part.2.geometry = none ∨
    ∃ g, part.2.geometry = some g ∧ (g.thickness == 0.0) = true

/-! ### What is an error of the record itself -/

/-- The material or the coverage is missing. -/
def ArmourPiece.IsIncomplete (p : ArmourPiece) : Prop :=
  p.material = "" ∨ p.coverage = []

/-- There is no layer, or a layer without a material. -/
def TissueTemplate.IsIncomplete (t : TissueTemplate) : Prop :=
  t.layers = [] ∨ ∃ l ∈ t.layers, l.materialId = ""

/-- Some part has no tissue template, or an empty one. -/
def BodyPlan.IsIncomplete (p : BodyPlan) : Prop :=
  ∃ part ∈ p.parts, part.2.tissueTemplate = none ∨ part.2.tissueTemplate = some ""

/-- The template of a part is the one that it gives, unless that is empty. -/
theorem BodyPart.namedTemplate?_eq_some_iff {p : BodyPart} {id : String} :
    p.namedTemplate? = some id ↔ p.tissueTemplate = some id ∧ id ≠ "" := by
  simp [BodyPart.namedTemplate?, Option.filter_eq_some_iff]

theorem BodyPart.namedTemplate?_eq_none_iff {p : BodyPart} :
    p.namedTemplate? = none ↔ p.tissueTemplate = none ∨ p.tissueTemplate = some "" := by
  cases h : p.tissueTemplate with
  | none => simp [BodyPart.namedTemplate?, h]
  | some id => simp [BodyPart.namedTemplate?, h]

/-- The thickness of a part is zero just if it gives no measures, or a thickness of zero. -/
theorem BodyPart.thickness_beq_zero_iff {p : BodyPart} :
    (p.thickness == 0.0) = true ↔
      p.geometry = none ∨ ∃ g, p.geometry = some g ∧ (g.thickness == 0.0) = true := by
  have hzero : ((0.0 : Float) == 0.0) = true := by decide
  cases h : p.geometry <;> simp [BodyPart.thickness, h, hzero]

namespace Audit

/-! ### Warnings -/

private theorem ite_singleton_ne_nil {α : Type} {p : Prop} [Decidable p] {a : α} :
    (if p then [a] else []) ≠ [] ↔ p := by
  split <;> simp [*]

theorem zeroNames_ne_nil {numbers : List (String × Float)} :
    zeroNames numbers ≠ [] ↔ ∃ x ∈ numbers.map (·.2), (x == 0.0) = true := by
  rw [zeroNames, ne_eq, List.map_eq_nil_iff, List.filter_eq_nil_iff]
  simp only [List.mem_map, exists_exists_and_eq_and, not_forall, not_not, exists_prop]

theorem hasWarnings_weaponEntry {r : Record Weapon} :
    (weaponEntry r).hasWarnings = true ↔ r.data.HasZero := by
  rw [Entry.hasWarnings_iff, weaponEntry_eq, zeroWarnings, ne_eq, List.append_eq_nil_iff,
    List.map_eq_nil_iff, List.map_eq_nil_iff, not_and_or, ← ne_eq, ← ne_eq, zeroNames_ne_nil,
    zeroNames_ne_nil]
  simp [Weapon.HasZero, namedCoefficients, namedBaseData, or_assoc]

theorem missingMults_ne_nil {b : AxisBias} :
    ((namedMults b).filter fun m => m.2.isNone) ≠ [] ↔
      b.geometry = none ∨ b.energy = none ∨ b.rigidity = none := by
  rw [ne_eq, List.filter_eq_nil_iff, not_forall]
  simp [namedMults, or_and_right, exists_or]

theorem biasWarnings_ne_nil {t : Technique} :
    biasWarnings t ≠ [] ↔ t.axisBias = none ∨
      ∃ b, t.axisBias = some b ∧ (b.geometry = none ∨ b.energy = none ∨ b.rigidity = none) := by
  rw [biasWarnings, givenBias?]
  cases h : t.axisBias with
  | none => simp
  | some b =>
    by_cases hb : b.isEmpty = true
    · have hg : b.geometry = none := by simp_all [AxisBias.isEmpty]
      simp [Option.filter, hb, hg]
    · have hgiven : (some b).filter (fun b => !b.isEmpty) = some b := by simp [Option.filter, hb]
      rw [hgiven, ne_eq, List.map_eq_nil_iff, ← ne_eq, missingMults_ne_nil]
      simp

theorem hasWarnings_techniqueEntry {r : Record Technique} :
    (techniqueEntry r).hasWarnings = true ↔ r.data.IsSparse := by
  have hchannels : (r.data.isAttack && !r.data.channels.any) = true ↔
      r.data.attackMode ≠ "none" ∧ r.data.channels.weapon = false ∧
        r.data.channels.offHand = false ∧ r.data.channels.footwork = false := by
    simp [Technique.isAttack, Channels.any, and_assoc]
  rw [Entry.hasWarnings_iff, techniqueEntry_eq, ne_eq, List.append_eq_nil_iff, not_and_or, ← ne_eq,
    ← ne_eq, biasWarnings_ne_nil, channelWarnings, ite_singleton_ne_nil, hchannels,
    Technique.IsSparse, or_assoc]

theorem hasWarnings_armourMaterialEntry {r : Record ArmourMaterial} :
    (armourMaterialEntry r).hasWarnings = true ↔ r.data.IsImplausible := by
  have hsum : shieldingWarnings r.data.shielding ≠ [] ↔
      r.data.shielding.deflection + r.data.shielding.absorption + r.data.shielding.dispersion >
        1.5 + 1e-9 := by
    rw [shieldingWarnings, ite_singleton_ne_nil, exceeds, decide_eq_true_iff, Shielding.sum,
      maxShieldingSum, roundingSlack]
  have haxis : reductionWarnings r.data.susceptibility ≠ [] ↔
      ∃ axis, ((r.data.susceptibility.on axis).threshold.getD 0.0 == 0.0) = true ∧
        (r.data.susceptibility.on axis).ratio.getD 1.0 < 1.0 := by
    have hall (axis : Axis) : axis ∈ Axis.all := by cases axis <;> decide
    have hreduces (axis : Axis) : reducesEveryHit r.data.susceptibility axis = true ↔
        ((r.data.susceptibility.on axis).threshold.getD 0.0 == 0.0) = true ∧
          (r.data.susceptibility.on axis).ratio.getD 1.0 < 1.0 := by
      rw [reducesEveryHit, Bool.and_eq_true, decide_eq_true_iff, thresholdOn, ratioOn, ratioFloor]
    rw [reductionWarnings, ne_eq, List.map_eq_nil_iff, List.filter_eq_nil_iff]
    simp only [hall, forall_const, not_forall, not_not, hreduces]
  rw [Entry.hasWarnings_iff, armourMaterialEntry_eq, ne_eq, List.append_eq_nil_iff, not_and_or,
    ← ne_eq, ← ne_eq, hsum, haxis, ArmourMaterial.IsImplausible]

/-- Some numbered member of a list has a property just if some member has it. -/
theorem filter_zipIdx_ne_nil {α : Type} {p : α → Bool} {xs : List α} :
    xs.zipIdx.filter (fun x => p x.1) ≠ [] ↔ ∃ x ∈ xs, p x = true := by
  rw [ne_eq, List.filter_eq_nil_iff]
  simp only [not_forall, not_not, exists_prop]
  constructor
  · rintro ⟨x, hx, hp⟩
    exact ⟨x.1, List.fst_mem_of_mem_zipIdx hx, hp⟩
  · rintro ⟨x, hx, hp⟩
    obtain ⟨i, hi⟩ := List.getElem?_of_mem hx
    exact ⟨(x, i), List.mem_zipIdx_iff_getElem?.mpr hi, hp⟩

theorem hasWarnings_armourPieceEntry {r : Record ArmourPiece} :
    (armourPieceEntry r).hasWarnings = true ↔ r.data.HasUntaggedCoverage := by
  rw [Entry.hasWarnings_iff, armourPieceEntry_eq, coverageWarnings, ne_eq, List.map_eq_nil_iff,
    ← ne_eq, filter_zipIdx_ne_nil (p := fun k : Coverage => k.partTags.isEmpty)]
  simp [ArmourPiece.HasUntaggedCoverage]

theorem hasWarnings_tissueTemplateEntry {r : Record TissueTemplate} :
    (tissueTemplateEntry r).hasWarnings = true ↔ r.data.IsUneven := by
  rw [Entry.hasWarnings_iff, tissueTemplateEntry_eq, thicknessWarnings, ite_singleton_ne_nil,
    exceeds, decide_eq_true_iff, thicknessTolerance, roundingSlack, TissueTemplate.IsUneven]

theorem partFinding_ne_nil {what : String} {names : List String} :
    partFinding what names ≠ [] ↔ names ≠ [] := by
  simp [partFinding]

theorem partNames_ne_nil {p : BodyPart → Bool} {parts : List (String × BodyPart)} :
    partNames p parts ≠ [] ↔ ∃ part ∈ parts, p part.2 = true := by
  simp [partNames, List.filter_eq_nil_iff]

theorem hasWarnings_bodyPlanEntry {r : Record BodyPlan} :
    (bodyPlanEntry r).hasWarnings = true ↔ r.data.HasFlatPart := by
  rw [Entry.hasWarnings_iff, bodyPlanEntry_eq, geometryWarnings, partFinding_ne_nil,
    partNames_ne_nil, BodyPlan.HasFlatPart]
  simp only [BodyPart.thickness_beq_zero_iff]

/-! ### Errors -/

@[simp]
theorem hasErrors_weaponEntry (r : Record Weapon) : (weaponEntry r).hasErrors = false := by
  rw [weaponEntry_eq]
  rfl

@[simp]
theorem hasErrors_techniqueEntry (r : Record Technique) :
    (techniqueEntry r).hasErrors = false := by
  rw [techniqueEntry_eq]
  rfl

@[simp]
theorem hasErrors_armourMaterialEntry (r : Record ArmourMaterial) :
    (armourMaterialEntry r).hasErrors = false := by
  rw [armourMaterialEntry_eq]
  rfl

@[simp]
theorem hasErrors_malformedEntry (m : Malformed) : (malformedEntry m).hasErrors = true := rfl

theorem hasErrors_armourPieceEntry {r : Record ArmourPiece} :
    (armourPieceEntry r).hasErrors = true ↔ r.data.IsIncomplete := by
  rw [Entry.hasErrors_iff, armourPieceEntry_eq, coverageErrors, ne_eq, List.append_eq_nil_iff,
    not_and_or, ← ne_eq, ← ne_eq, ite_singleton_ne_nil, ite_singleton_ne_nil, String.isEmpty_iff,
    List.isEmpty_iff, ArmourPiece.IsIncomplete]

theorem hasErrors_tissueTemplateEntry {r : Record TissueTemplate} :
    (tissueTemplateEntry r).hasErrors = true ↔ r.data.IsIncomplete := by
  have hlayers : layerErrors r.data.layers ≠ [] ↔ ∃ l ∈ r.data.layers, l.materialId = "" := by
    rw [layerErrors, ne_eq, List.map_eq_nil_iff, ← ne_eq,
      filter_zipIdx_ne_nil (p := fun l : TissueLayer => l.materialId.isEmpty)]
    simp
  rw [Entry.hasErrors_iff, tissueTemplateEntry_eq, noLayersErrors, ne_eq, List.append_eq_nil_iff,
    not_and_or, ← ne_eq, ← ne_eq, hlayers, ite_singleton_ne_nil, List.isEmpty_iff,
    TissueTemplate.IsIncomplete]

theorem hasErrors_bodyPlanEntry {r : Record BodyPlan} :
    (bodyPlanEntry r).hasErrors = true ↔ r.data.IsIncomplete := by
  rw [Entry.hasErrors_iff, bodyPlanEntry_eq, templateErrors, partFinding_ne_nil, partNames_ne_nil,
    BodyPlan.IsIncomplete]
  simp only [Option.isNone_iff_eq_none, BodyPart.namedTemplate?_eq_none_iff]

/-! ### References -/

variable {d : Dataset} {id : String}

@[simp]
theorem not_refers_weaponEntry (r : Record Weapon) : ¬ (weaponEntry r).Refers d id := by
  rw [weaponEntry_eq]
  exact List.not_mem_nil

@[simp]
theorem not_refers_techniqueEntry (r : Record Technique) : ¬ (techniqueEntry r).Refers d id := by
  rw [techniqueEntry_eq]
  exact List.not_mem_nil

@[simp]
theorem not_refers_armourMaterialEntry (r : Record ArmourMaterial) :
    ¬ (armourMaterialEntry r).Refers d id := by
  rw [armourMaterialEntry_eq]
  exact List.not_mem_nil

@[simp]
theorem not_refers_malformedEntry (m : Malformed) : ¬ (malformedEntry m).Refers d id :=
  List.not_mem_nil

/-- The materials of layers are no records. -/
@[simp]
theorem not_refers_tissueTemplateEntry (r : Record TissueTemplate) :
    ¬ (tissueTemplateEntry r).Refers d id := by
  simp [Entry.Refers, tissueTemplateEntry_eq]

/-- A piece refers to its material, if it gives one. -/
theorem refers_armourPieceEntry {r : Record ArmourPiece} :
    (armourPieceEntry r).Refers d id ↔
      d = .armourMaterials ∧ id = r.data.material ∧ id ≠ "" := by
  rw [Entry.Refers, armourPieceEntry_eq]
  split
  · next h =>
    rw [String.isEmpty_iff] at h
    simp +contextual [h]
  · next h =>
    rw [String.isEmpty_iff] at h
    simp +contextual [h]

theorem mem_templatesUsed {parts : List (String × BodyPart)} :
    id ∈ templatesUsed parts ↔
      ∃ part ∈ parts, part.2.tissueTemplate = some id ∧ id ≠ "" := by
  simp only [templatesUsed, NameSet.mem_ofList, List.mem_filterMap,
    BodyPart.namedTemplate?_eq_some_iff]

/-- A plan refers to the templates that its parts give. -/
theorem refers_bodyPlanEntry {r : Record BodyPlan} :
    (bodyPlanEntry r).Refers d id ↔
      d = .tissueTemplates ∧
        ∃ part ∈ r.data.parts, part.2.tissueTemplate = some id ∧ id ≠ "" := by
  rw [← mem_templatesUsed, NameSet.mem_def, Entry.Refers, bodyPlanEntry_eq, List.mem_map]
  constructor
  · rintro ⟨id', hid, heq⟩
    cases heq
    exact ⟨rfl, hid⟩
  · rintro ⟨rfl, hid⟩
    exact ⟨id, hid, rfl⟩

end Audit

end CombatContent
