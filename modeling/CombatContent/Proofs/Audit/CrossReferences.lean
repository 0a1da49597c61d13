import CombatContent.Proofs.Content.Drafts

/-!
# Errors about references

The audit reports a reference when no entry declares the id that it names. Entries come from typed
records and from malformed ones, so that an id is declared just if some draft of the dataset has it.
Only pieces of armour and body plans refer to records: a piece to its material, and a plan once to
every template that its parts use. The errors about references of a whole document are told here
from its drafts and its typed records.

## Main definitions

* `BodyPlan.unknownTemplates`: the templates that a plan uses and that are not known.

## Main results

* `Audit.unresolved?_addAll_entries`: the references that are resolved lead to ids of the drafts.
* `Audit.crossReferenceErrors_run_ofDocument`: the errors about references of a document.
-/

namespace CombatContent

/-- The templates that the parts of a plan use and that are not among the known ones. -/
def BodyPlan.unknownTemplates (known : List String) (p : BodyPlan) : List String :=
  (Audit.templatesUsed p.parts).toList.filter fun id => id ∉ known

theorem BodyPlan.pairwise_unknownTemplates (known : List String) (p : BodyPlan) :
    (p.unknownTemplates known).Pairwise (· < ·) :=
  (Audit.templatesUsed p.parts).ascending.filter _

theorem BodyPlan.mem_unknownTemplates {known : List String} {p : BodyPlan} {id : String} :
    id ∈ p.unknownTemplates known ↔
      (∃ part ∈ p.parts, part.2.tissueTemplate = some id) ∧ id ≠ "" ∧ id ∉ known := by
  rw [unknownTemplates, List.mem_filter, ← NameSet.mem_def, Audit.mem_templatesUsed,
    decide_eq_true_eq]
  constructor
  · rintro ⟨⟨part, hpart, hid, hne⟩, hknown⟩
    exact ⟨⟨part, hpart, hid⟩, hne, hknown⟩
  · rintro ⟨⟨part, hpart, hid⟩, hne, hknown⟩
    exact ⟨⟨part, hpart, hid, hne⟩, hknown⟩

namespace Audit

variable {document : Tree}

/-! ### What the audit declares -/

/-- What is reported of a reference to an audited dataset is told by the drafts there. -/
theorem unresolved?_addAll_entries {d : Dataset} (hd : d ∈ Dataset.audited) (e : Entry)
    (id : String) :
    (Report.empty.addAll (entries (Content.ofDocument document))).unresolved? e ⟨.record d, id⟩ =
      if id ∈ (Draft.ofDocument document d).map Draft.id then none
      else some (Report.unknownMessage e d id) := by
  rw [Report.unresolved?_record]
  refine if_congr ?_ rfl rfl
  rw [Report.declares_addAll, Report.declares_empty, mem_keys_entries_iff hd,
    Content.mem_ids_or_malformed_iff]
  simp

/-! ### What is reported of one record -/

/-- The errors about the references of an entry, in a report of all entries of a document. -/
def unknownReferences (document : Tree) (e : Entry) : List String :=
  e.references.filterMap
    ((Report.empty.addAll (entries (Content.ofDocument document))).unresolved? e)

@[simp]
theorem unknownReferences_weaponEntry (r : Record Weapon) :
    unknownReferences document (weaponEntry r) = [] := by
  rw [weaponEntry_eq]
  rfl

@[simp]
theorem unknownReferences_techniqueEntry (r : Record Technique) :
    unknownReferences document (techniqueEntry r) = [] := by
  rw [techniqueEntry_eq]
  rfl

@[simp]
theorem unknownReferences_armourMaterialEntry (r : Record ArmourMaterial) :
    unknownReferences document (armourMaterialEntry r) = [] := by
  rw [armourMaterialEntry_eq]
  rfl

@[simp]
theorem unknownReferences_malformedEntry (m : Malformed) :
    unknownReferences document (malformedEntry m) = [] := rfl

/-- The materials of layers are not looked for. -/
@[simp]
theorem unknownReferences_tissueTemplateEntry (r : Record TissueTemplate) :
    unknownReferences document (tissueTemplateEntry r) = [] := by
  rw [tissueTemplateEntry_eq]
  refine List.filterMap_eq_nil_iff.mpr fun ref href => ?_
  obtain ⟨id, -, rfl⟩ := List.mem_map.mp href
  rfl

/-- The wording of what is reported, around the ids of the entry and of what it refers to. -/
theorem unknownMessage_eq {e : Entry} {d : Dataset} {opening middle : String}
    (hopening : opening = e.dataset.label ++ " '")
    (hmiddle : middle = "' references unknown " ++ d.noun ++ " '") (id : String) :
    Report.unknownMessage e d id = opening ++ e.id ++ middle ++ id ++ "'" := by
  simp only [Report.unknownMessage, hopening, hmiddle, String.append_assoc]

/-- A piece is reported if it gives a material that no draft of a material has as its id. -/
theorem unknownReferences_armourPieceEntry (r : Record ArmourPiece) :
    unknownReferences document (armourPieceEntry r) =
      if r.data.material ≠ "" ∧
          r.data.material ∉ (Draft.ofDocument document .armourMaterials).map Draft.id then
        ["Armour piece '" ++ r.id ++ "' references unknown material '" ++ r.data.material ++ "'"]
      else [] := by
  rw [unknownReferences]
  by_cases hempty : r.data.material = ""
  · rw [if_neg fun h => h.1 hempty]
    simp [armourPieceEntry_eq, hempty]
  · have href : (armourPieceEntry r).references =
        [⟨.record .armourMaterials, r.data.material⟩] := by
      simp [armourPieceEntry_eq, hempty]
    rw [href, List.filterMap_cons, List.filterMap_nil, unresolved?_addAll_entries (by decide)]
    by_cases hknown : r.data.material ∈
        (Draft.ofDocument document .armourMaterials).map Draft.id
    · rw [if_pos hknown, if_neg fun h => h.2 hknown]
    · rw [if_neg hknown, if_pos ⟨hempty, hknown⟩, armourPieceEntry_eq]
      exact congrArg (fun message => [message]) (unknownMessage_eq rfl rfl _)

/-- A plan is reported once for every template that it uses and that no draft has as its id. -/
theorem unknownReferences_bodyPlanEntry (r : Record BodyPlan) :
    unknownReferences document (bodyPlanEntry r) =
      (r.data.unknownTemplates ((Draft.ofDocument document .tissueTemplates).map Draft.id)).map
        fun id =>
          "Body plan '" ++ r.id ++ "' references unknown tissue template '" ++ id ++ "'" := by
  have href : (bodyPlanEntry r).references =
      (templatesUsed r.data.parts).toList.map fun id => ⟨.record .tissueTemplates, id⟩ := by
    rw [bodyPlanEntry_eq]
  rw [unknownReferences, href, BodyPlan.unknownTemplates, List.filterMap_map,
    ← List.filterMap_eq_map, List.filterMap_filter]
  refine List.filterMap_congr fun id _ => ?_
  rw [Function.comp_apply, unresolved?_addAll_entries (by decide)]
  by_cases hknown : id ∈ (Draft.ofDocument document .tissueTemplates).map Draft.id
  · rw [if_pos hknown, if_neg (by simpa using hknown)]
  · rw [if_neg hknown, if_pos (by simpa using hknown), bodyPlanEntry_eq]
    exact congrArg some (unknownMessage_eq rfl rfl _)

/-! ### What is reported of a document -/

theorem crossReferenceErrors_run :
    (run (Content.ofDocument document)).crossReferenceErrors =
      (entries (Content.ofDocument document)).flatMap (unknownReferences document) := by
  rw [run, Report.resolve_eq, Report.crossReferenceErrors_addAll, Report.unresolved_addAll]
  rfl

/-- Only the typed pieces of armour and the typed body plans are reported, in this order. -/
theorem flatMap_unknownReferences_entries {c : Content} :
    (entries c).flatMap (unknownReferences document) =
      (c.armourPieces.flatMap fun r => unknownReferences document (armourPieceEntry r)) ++
        c.bodyPlans.flatMap fun r => unknownReferences document (bodyPlanEntry r) := by
  have hnone {α : Type} (xs : List α) : xs.flatMap (fun _ => ([] : List String)) = [] :=
    List.flatMap_eq_nil_iff.mpr fun _ _ => rfl
  simp only [entries, Dataset.audited, typedEntries, List.flatMap_cons, List.flatMap_nil,
    List.flatMap_append, List.flatMap_map, unknownReferences_weaponEntry,
    unknownReferences_techniqueEntry, unknownReferences_armourMaterialEntry,
    unknownReferences_tissueTemplateEntry, unknownReferences_malformedEntry, hnone,
    List.nil_append, List.append_nil]

private theorem flatMap_ite_singleton {α β : Type} {p : α → Prop} [DecidablePred p] (f : α → β)
    (xs : List α) :
    (xs.flatMap fun x => if p x then [f x] else []) = (xs.filter fun x => p x).map f := by
  induction xs with
  | nil => rfl
  | cons x xs ih => by_cases h : p x <;> simp [h, ih]

/-- The typed pieces of armour are in order of their ids. -/
theorem pairwise_ids_armourPieces (document : Tree) :
    ((Content.ofDocument document).armourPieces.map Record.id).Pairwise (· ≤ ·) := by
  have hids := @Content.ids_ofDocument document .armourPieces
  rw [Content.ids] at hids
  rw [hids, List.pairwise_map]
  exact (pairwise_sortedBy Draft.id _).filter _

/-- The typed body plans are in document order. -/
theorem ids_bodyPlans_sublist (document : Tree) :
    ((Content.ofDocument document).bodyPlans.map Record.id).Sublist
      (Draft.membersAt document "body_plans").keys := by
  have hids := @Content.ids_ofDocument document .bodyPlans
  have hkeys : (Draft.ofDocument document .bodyPlans).map Draft.id =
      (Draft.membersAt document "body_plans").keys := List.map_map
  rw [Content.ids] at hids
  rw [hids, ← hkeys]
  exact List.filter_sublist.map _

/-- The errors about references of a document: in order of ids, one for each typed piece of armour
whose material is given but is the id of no draft of a material, and then, in document order, for
each typed body plan one for each template that its parts use and that is the id of no draft of a
template. -/
theorem crossReferenceErrors_run_ofDocument (document : Tree) :
    let c := Content.ofDocument document
    let known d := (Draft.ofDocument document d).map Draft.id
    (c.armourPieces.map Record.id).Pairwise (· ≤ ·) ∧
    (c.bodyPlans.map Record.id).Sublist (Draft.membersAt document "body_plans").keys ∧
    (∀ p : BodyPlan, (p.unknownTemplates (known .tissueTemplates)).Pairwise (· < ·) ∧
      ∀ id, id ∈ p.unknownTemplates (known .tissueTemplates) ↔
        (∃ part ∈ p.parts, part.2.tissueTemplate = some id) ∧ id ≠ "" ∧
          id ∉ known .tissueTemplates) ∧
    (run c).crossReferenceErrors =
      ((c.armourPieces.filter fun r =>
          r.data.material ≠ "" ∧ r.data.material ∉ known .armourMaterials).map fun r =>
        "Armour piece '" ++ r.id ++ "' references unknown material '" ++ r.data.material ++ "'") ++
      c.bodyPlans.flatMap fun r =>
        (r.data.unknownTemplates (known .tissueTemplates)).map fun id =>
          "Body plan '" ++ r.id ++ "' references unknown tissue template '" ++ id ++ "'" := by
  intro c known
  refine ⟨pairwise_ids_armourPieces document, ids_bodyPlans_sublist document, fun p =>
    ⟨p.pairwise_unknownTemplates _, fun id => BodyPlan.mem_unknownTemplates⟩, ?_⟩
  rw [crossReferenceErrors_run, flatMap_unknownReferences_entries]
  simp only [unknownReferences_armourPieceEntry, unknownReferences_bodyPlanEntry]
  rw [flatMap_ite_singleton]

end Audit

end CombatContent
