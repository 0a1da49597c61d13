import CombatContent.Proofs.Audit.Findings

/-!
# The verdict of an audit

The audit of a document passes, passes with warnings, or fails. Each of the three is said here of
the typed content alone, without its report: content is *faulty* when the audit fails, and
*doubtful* when some record of it is worth a warning.

## Main definitions

* `Content.ids`: the ids of the typed records of a dataset.
* `Content.IsFaulty`, `Content.IsDoubtful`.

## Main results

* `Audit.exists_mem_entries`: where the entries of an audit come from.
* `Audit.status_run_eq_failed_iff`, `Audit.status_run_eq_passedWithWarnings_iff`.
* `Audit.status_run_ofDocument`: the three verdicts on a document.
-/

namespace CombatContent

namespace Content

/-- The ids of the typed records of a dataset, in the order of the dataset. -/
def ids (c : Content) : Dataset → List String
  | .weapons => c.weapons.map Record.id
  | .techniques => c.techniques.map Record.id
  | .armourMaterials => c.armourMaterials.map Record.id
  | .armourPieces => c.armourPieces.map Record.id
  | .tissueTemplates => c.tissueTemplates.map Record.id
  | .bodyPlans => c.bodyPlans.map Record.id
  | .species => c.species.map Record.id
  | .combatTests => c.combatTests.map Record.id

/-- Something in the content makes its audit fail. -/
inductive IsFaulty (c : Content) : Prop
  | malformed (h : c.malformed ≠ [])
  | repeatedId {d : Dataset} (hd : d ∈ Dataset.audited) (h : ¬ (c.ids d).Nodup)
  | incompletePiece {r} (hr : r ∈ c.armourPieces) (h : r.data.IsIncomplete)
  | unknownMaterial {r} (hr : r ∈ c.armourPieces) (h : r.data.material ∉ c.ids .armourMaterials)
  | incompleteTemplate {r} (hr : r ∈ c.tissueTemplates) (h : r.data.IsIncomplete)
  | incompletePlan {r} (hr : r ∈ c.bodyPlans) (h : r.data.IsIncomplete)
  | unknownTemplate {r part id} (hr : r ∈ c.bodyPlans) (hpart : part ∈ r.data.parts)
      (hid : part.2.tissueTemplate = some id) (h : id ∉ c.ids .tissueTemplates)

/-- Something in the content is worth a warning. -/
inductive IsDoubtful (c : Content) : Prop
  | weapon {r} (hr : r ∈ c.weapons) (h : r.data.HasZero)
  | technique {r} (hr : r ∈ c.techniques) (h : r.data.IsSparse)
  | armourMaterial {r} (hr : r ∈ c.armourMaterials) (h : r.data.IsImplausible)
  | armourPiece {r} (hr : r ∈ c.armourPieces) (h : r.data.HasUntaggedCoverage)
  | tissueTemplate {r} (hr : r ∈ c.tissueTemplates) (h : r.data.IsUneven)
  | bodyPlan {r} (hr : r ∈ c.bodyPlans) (h : r.data.HasFlatPart)

end Content

namespace Audit

variable {c : Content}

/-! ### The entries of an audit -/

/-- Every entry is that of a record of an audited dataset or of a malformed record. -/
theorem exists_mem_entries {p : Entry → Prop} :
    (∃ e ∈ entries c, p e) ↔
      (∃ r ∈ c.weapons, p (weaponEntry r)) ∨ (∃ r ∈ c.techniques, p (techniqueEntry r)) ∨
      (∃ r ∈ c.armourMaterials, p (armourMaterialEntry r)) ∨
      (∃ r ∈ c.armourPieces, p (armourPieceEntry r)) ∨
      (∃ r ∈ c.tissueTemplates, p (tissueTemplateEntry r)) ∨
      (∃ r ∈ c.bodyPlans, p (bodyPlanEntry r)) ∨ ∃ m ∈ c.malformed, p (malformedEntry m) := by
  simp only [entries, Dataset.audited, typedEntries, List.flatMap_cons, List.flatMap_nil,
    List.append_nil, List.mem_append, List.mem_map, or_and_right, exists_or,
    exists_exists_and_eq_and, or_assoc]

/-- The typed records of an audited dataset give entries of that dataset with their ids. -/
theorem keys_typedEntries {d : Dataset} (hd : d ∈ Dataset.audited) :
    (typedEntries c d).map Entry.key = (c.ids d).map (Prod.mk d) := by
  cases d with
  | species => exact absurd hd (by decide)
  | combatTests => exact absurd hd (by decide)
  | _ =>
    simp only [typedEntries, Content.ids, List.map_map, Function.comp_def, weaponEntry_eq,
      techniqueEntry_eq, armourMaterialEntry_eq, armourPieceEntry_eq, tissueTemplateEntry_eq,
      bodyPlanEntry_eq]
    rfl

/-- The keys of the entries: the ids of the audited datasets, and those of malformed records. -/
theorem keys_entries :
    (entries c).map Entry.key =
      Dataset.audited.flatMap (fun d => (c.ids d).map (Prod.mk d)) ++
        c.malformed.map fun m => (m.dataset, m.id) := by
  have hkeys : Dataset.audited.map (fun d => (typedEntries c d).map Entry.key) =
      Dataset.audited.map fun d => (c.ids d).map (Prod.mk d) :=
    List.map_congr_left fun d hd => keys_typedEntries hd
  rw [entries, List.map_append, List.map_flatMap, List.flatMap_def, hkeys, ← List.flatMap_def,
    List.map_map]
  rfl

/-- An id has an entry in an audited dataset just if a typed or a malformed record there has it. -/
theorem mem_keys_entries_iff {d : Dataset} (hd : d ∈ Dataset.audited) {id : String} :
    (d, id) ∈ (entries c).map Entry.key ↔
      id ∈ c.ids d ∨ ∃ m ∈ c.malformed, m.dataset = d ∧ m.id = id := by
  rw [keys_entries, List.mem_append, List.mem_flatMap, List.mem_map]
  refine or_congr ?_ (by simp only [Prod.mk.injEq])
  constructor
  · rintro ⟨d', -, hid⟩
    obtain ⟨id', hid', heq⟩ := List.mem_map.mp hid
    cases heq
    exact hid'
  · exact fun hid => ⟨d, hd, List.mem_map_of_mem hid⟩

/-- Without malformed records, an id has an entry in an audited dataset just if a typed record
there has it. -/
theorem mem_keys_entries (hm : c.malformed = []) {d : Dataset} (hd : d ∈ Dataset.audited)
    {id : String} : (d, id) ∈ (entries c).map Entry.key ↔ id ∈ c.ids d := by
  simp [mem_keys_entries_iff hd, hm]

/-- Without malformed records, no key comes twice just if no id comes twice in its dataset. -/
theorem nodup_keys_entries (hm : c.malformed = []) :
    ((entries c).map Entry.key).Nodup ↔ ∀ d ∈ Dataset.audited, (c.ids d).Nodup := by
  have hdisjoint : Dataset.audited.Pairwise
      (Function.onFun List.Disjoint fun d => (c.ids d).map (Prod.mk d)) := by
    refine List.Pairwise.imp (R := (· ≠ ·)) (fun {a b} hab x ha hb => ?_) (by decide)
    obtain ⟨_, -, rfl⟩ := List.mem_map.mp ha
    obtain ⟨_, -, heq⟩ := List.mem_map.mp hb
    exact hab (Prod.mk.inj heq).1.symm
  rw [keys_entries, hm, List.map_nil, List.append_nil, List.nodup_flatMap,
    and_iff_left hdisjoint]
  refine forall₂_congr fun d _ => List.nodup_map_iff fun _ _ h => (Prod.mk.inj h).2

/-! ### Failure -/

/-- Some entry comes in error just if a record is malformed or incomplete. -/
theorem exists_hasErrors_entries :
    (∃ e ∈ entries c, e.hasErrors = true) ↔
      (∃ r ∈ c.armourPieces, r.data.IsIncomplete) ∨
      (∃ r ∈ c.tissueTemplates, r.data.IsIncomplete) ∨
      (∃ r ∈ c.bodyPlans, r.data.IsIncomplete) ∨ c.malformed ≠ [] := by
  rw [exists_mem_entries (p := fun e => e.hasErrors = true)]
  simp only [hasErrors_weaponEntry, hasErrors_techniqueEntry, hasErrors_armourMaterialEntry,
    hasErrors_armourPieceEntry, hasErrors_tissueTemplateEntry, hasErrors_bodyPlanEntry,
    hasErrors_malformedEntry, Bool.false_eq_true, and_false, exists_false, false_or, and_true,
    ne_eq, List.eq_nil_iff_forall_not_mem, not_forall, not_not]

/-- Without malformed records, a reference leads nowhere just if the material of a piece or the
template of a part is given and is the id of no record. -/
theorem exists_unresolved_entries (hm : c.malformed = []) :
    (∃ e ∈ entries c, ∃ d id, e.Refers d id ∧ (d, id) ∉ (entries c).map Entry.key) ↔
      (∃ r ∈ c.armourPieces, r.data.material ≠ "" ∧
        r.data.material ∉ c.ids .armourMaterials) ∨
      ∃ r ∈ c.bodyPlans, ∃ part ∈ r.data.parts, ∃ id,
        part.2.tissueTemplate = some id ∧ id ≠ "" ∧ id ∉ c.ids .tissueTemplates := by
  have hmaterial (id : String) : (.armourMaterials, id) ∈ (entries c).map Entry.key ↔
      id ∈ c.ids .armourMaterials := mem_keys_entries hm (by decide)
  have htemplate (id : String) : (.tissueTemplates, id) ∈ (entries c).map Entry.key ↔
      id ∈ c.ids .tissueTemplates := mem_keys_entries hm (by decide)
  rw [exists_mem_entries (p := fun e => ∃ d id, e.Refers d id ∧
    (d, id) ∉ (entries c).map Entry.key)]
  simp only [not_refers_weaponEntry, not_refers_techniqueEntry, not_refers_armourMaterialEntry,
    not_refers_tissueTemplateEntry, not_refers_malformedEntry, refers_armourPieceEntry,
    refers_bodyPlanEntry, false_and, exists_false, and_false, false_or, or_false]
  refine or_congr (exists_congr fun r => and_congr_right fun _ => ?_)
    (exists_congr fun r => and_congr_right fun _ => ?_)
  · constructor
    · rintro ⟨d, id, ⟨rfl, rfl, hne⟩, hid⟩
      exact ⟨hne, mt (hmaterial _).mpr hid⟩
    · rintro ⟨hne, hid⟩
      exact ⟨_, _, ⟨rfl, rfl, hne⟩, mt (hmaterial _).mp hid⟩
  · constructor
    · rintro ⟨d, id, ⟨rfl, part, hpart, hsome, hne⟩, hid⟩
      exact ⟨part, hpart, id, hsome, hne, mt (htemplate _).mpr hid⟩
    · rintro ⟨part, hpart, id, hsome, hne, hid⟩
      exact ⟨_, id, ⟨rfl, part, hpart, hsome, hne⟩, mt (htemplate _).mp hid⟩

/-- The audit fails just if the content is faulty. -/
theorem status_run_eq_failed_iff : (run c).status = .failed ↔ c.IsFaulty := by
  by_cases hm : c.malformed = []
  · rw [run, Report.status_resolve_addAll_eq_failed_iff, exists_hasErrors_entries,
      nodup_keys_entries hm, exists_unresolved_entries hm]
    constructor
    · rintro ((⟨r, hr, h⟩ | ⟨r, hr, h⟩ | ⟨r, hr, h⟩ | h) | h | ⟨r, hr, -, h⟩ |
        ⟨r, hr, part, hpart, id, hid, -, h⟩)
      · exact .incompletePiece hr h
      · exact .incompleteTemplate hr h
      · exact .incompletePlan hr h
      · exact .malformed h
      · push Not at h
        obtain ⟨d, hd, h⟩ := h
        exact .repeatedId hd h
      · exact .unknownMaterial hr h
      · exact .unknownTemplate hr hpart hid h
    · intro h
      cases h with
      | malformed h => exact absurd hm h
      | repeatedId hd h => exact .inr (.inl fun hall => h (hall _ hd))
      | incompletePiece hr h => exact .inl (.inl ⟨_, hr, h⟩)
      | @unknownMaterial r hr h =>
        by_cases hempty : r.data.material = ""
        · exact .inl (.inl ⟨r, hr, .inl hempty⟩)
        · exact .inr (.inr (.inl ⟨r, hr, hempty, h⟩))
      | incompleteTemplate hr h => exact .inl (.inr (.inl ⟨_, hr, h⟩))
      | incompletePlan hr h => exact .inl (.inr (.inr (.inl ⟨_, hr, h⟩)))
      | @unknownTemplate r part id hr hpart hid h =>
        by_cases hempty : id = ""
        · exact .inl (.inr (.inr (.inl ⟨r, hr, part, hpart, .inr (hempty ▸ hid)⟩)))
        · exact .inr (.inr (.inr ⟨r, hr, part, hpart, id, hid, hempty, h⟩))
  · refine iff_of_true ?_ (.malformed hm)
    rw [run, Report.status_resolve_addAll_eq_failed_iff, exists_hasErrors_entries]
    exact .inl (.inr (.inr (.inr hm)))

/-! ### Warnings -/

@[simp]
theorem hasWarnings_malformedEntry (m : Malformed) : (malformedEntry m).hasWarnings = false := rfl

/-- Some entry comes with a warning just if the content is doubtful. -/
theorem exists_hasWarnings_entries :
    (∃ e ∈ entries c, e.hasWarnings = true) ↔ c.IsDoubtful := by
  rw [exists_mem_entries (p := fun e => e.hasWarnings = true)]
  simp only [hasWarnings_weaponEntry, hasWarnings_techniqueEntry, hasWarnings_armourMaterialEntry,
    hasWarnings_armourPieceEntry, hasWarnings_tissueTemplateEntry, hasWarnings_bodyPlanEntry,
    hasWarnings_malformedEntry, Bool.false_eq_true, and_false, exists_false, or_false]
  constructor
  · rintro (⟨r, hr, h⟩ | ⟨r, hr, h⟩ | ⟨r, hr, h⟩ | ⟨r, hr, h⟩ | ⟨r, hr, h⟩ | ⟨r, hr, h⟩)
    · exact .weapon hr h
    · exact .technique hr h
    · exact .armourMaterial hr h
    · exact .armourPiece hr h
    · exact .tissueTemplate hr h
    · exact .bodyPlan hr h
  · intro h
    cases h with
    | weapon hr h => exact .inl ⟨_, hr, h⟩
    | technique hr h => exact .inr (.inl ⟨_, hr, h⟩)
    | armourMaterial hr h => exact .inr (.inr (.inl ⟨_, hr, h⟩))
    | armourPiece hr h => exact .inr (.inr (.inr (.inl ⟨_, hr, h⟩)))
    | tissueTemplate hr h => exact .inr (.inr (.inr (.inr (.inl ⟨_, hr, h⟩))))
    | bodyPlan hr h => exact .inr (.inr (.inr (.inr (.inr ⟨_, hr, h⟩))))

/-- The audit passes with warnings just if the content is doubtful but not faulty. -/
theorem status_run_eq_passedWithWarnings_iff :
    (run c).status = .passedWithWarnings ↔ ¬ c.IsFaulty ∧ c.IsDoubtful := by
  rw [← status_run_eq_failed_iff, ← exists_hasWarnings_entries, run,
    Report.status_resolve_addAll_eq_passedWithWarnings_iff]

/-- The audit of a document fails just if its content is faulty; of content that is not faulty it
passes with warnings just if the content is doubtful, and passes otherwise. -/
theorem status_run_ofDocument (document : Tree) :
    let c := Content.ofDocument document
    ((run c).status = .failed ↔ c.IsFaulty) ∧
      ((run c).status = .passedWithWarnings ↔ ¬ c.IsFaulty ∧ c.IsDoubtful) ∧
      ((run c).status = .passed ↔ ¬ c.IsFaulty ∧ ¬ c.IsDoubtful) := by
  intro c
  have hfailed : (run c).status = .failed ↔ c.IsFaulty := status_run_eq_failed_iff
  have hwarned : (run c).status = .passedWithWarnings ↔ ¬ c.IsFaulty ∧ c.IsDoubtful :=
    status_run_eq_passedWithWarnings_iff
  have hpassed : (run c).status = .passed ↔
      ¬ (run c).status = .failed ∧ ¬ (run c).status = .passedWithWarnings := by
    cases (run c).status <;> simp
  refine ⟨hfailed, hwarned, ?_⟩
  rw [hpassed, hfailed, hwarned]
  exact and_congr_right fun hsound => not_congr (and_iff_right hsound)

end Audit

end CombatContent
