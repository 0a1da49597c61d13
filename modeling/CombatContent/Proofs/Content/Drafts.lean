import CombatContent.Proofs.Audit.Verdict
import Mathlib.Data.List.Basic

/-!
# What becomes of drafts

Every draft of a document is either typed or set aside, and it keeps its id. Which of the two
happens is told by the fault of the draft, so that the typed ids of a dataset are those of its
drafts without a fault, and the malformed records of a document come from the drafts with one, in
dataset order and then in the order of the drafts.

## Main definitions

* `Content.fault?`: what is wrong with a draft of a dataset.
* `Content.drafts`: all drafts of a document, with their datasets.

## Main results

* `Content.ids_ofDocument`, `Content.malformedIn_eq_filterMap`: the two sides of one dataset.
* `Content.mem_ids_or_malformed_iff`: no id of a draft is lost.
* `Content.malformed_ofDocument`: the malformed records of a document.
-/

namespace CombatContent

/-! ### Drafts of one type -/

namespace Draft

variable {α : Type} (read : Typing.Reader α)

/-- What is wrong with a draft, if anything. -/
def fault? (d : Draft) : Option Typing.Fault :=
  match d.typed read with
  | .ok _ => none
  | .error fault => some fault

theorem malformed_eq_filterMap (dataset : Dataset) (ds : List Draft) :
    malformed read dataset ds =
      ds.filterMap fun d => (d.fault? read).map fun fault => ⟨dataset, d.id, fault⟩ := by
  refine List.filterMap_congr fun d _ => ?_
  rw [fault?]
  cases d.typed read <;> rfl

theorem id_of_typed_eq_ok {d : Draft} {r : Record α} (h : d.typed read = .ok r) : r.id = d.id := by
  rw [typed] at h
  cases hread : read d.node.dropNulls with
  | error fault => simp [hread, Except.map] at h
  | ok data =>
    rw [hread, Except.map, Except.ok.injEq] at h
    rw [← h]

/-- The typed records have the ids of the drafts without a fault. -/
theorem ids_records (ds : List Draft) :
    (records read ds).map Record.id =
      (ds.filter fun d => (d.fault? read).isNone).map Draft.id := by
  rw [records, List.map_filterMap, ← List.filterMap_eq_map, List.filterMap_filter]
  refine List.filterMap_congr fun d _ => ?_
  rw [fault?]
  cases h : d.typed read with
  | error fault => rfl
  | ok r => simp [id_of_typed_eq_ok read h]

end Draft

/-! ### Drafts of a document -/

namespace Content

variable {document : Tree}

/-- What is wrong with a draft of a dataset, if anything. -/
def fault? : Dataset → Draft → Option Typing.Fault
  | .weapons => Draft.fault? Weapon.shape.read
  | .techniques => Draft.fault? Technique.shape.read
  | .armourMaterials => Draft.fault? ArmourMaterial.shape.read
  | .armourPieces => Draft.fault? ArmourPiece.shape.read
  | .tissueTemplates => Draft.fault? TissueTemplate.shape.read
  | .bodyPlans => Draft.fault? BodyPlan.shape.read
  | .species => Draft.fault? Species.shape.read
  | .combatTests => Draft.fault? CombatTest.shape.read

/-- What a draft of a dataset is set aside as, if it has a fault. -/
def malformed? (d : Dataset) (draft : Draft) : Option Malformed :=
  (fault? d draft).map fun fault => ⟨d, draft.id, fault⟩

/-- The drafts of a document with their datasets, in dataset order and then in the order of the
dataset. -/
def drafts (document : Tree) : List (Dataset × Draft) :=
  Dataset.all.flatMap fun d => (Draft.ofDocument document d).map (Prod.mk d)

theorem malformed?_eq_some_iff {d : Dataset} {draft : Draft} {m : Malformed} :
    malformed? d draft = some m ↔
      fault? d draft = some m.fault ∧ m.dataset = d ∧ m.id = draft.id := by
  rw [malformed?, Option.map_eq_some_iff]
  constructor
  · rintro ⟨fault, hfault, rfl⟩
    exact ⟨hfault, rfl, rfl⟩
  · rintro ⟨hfault, hdataset, hid⟩
    exact ⟨m.fault, hfault, by rw [← hdataset, ← hid]⟩

theorem malformedIn_eq_filterMap (d : Dataset) :
    malformedIn document d = (Draft.ofDocument document d).filterMap (malformed? d) := by
  cases d <;> exact Draft.malformed_eq_filterMap ..

/-- The typed records of a dataset have the ids of its drafts without a fault. -/
theorem ids_ofDocument (d : Dataset) :
    (ofDocument document).ids d =
      ((Draft.ofDocument document d).filter fun draft => (fault? d draft).isNone).map
        Draft.id := by
  cases d <;> exact Draft.ids_records ..

/-- The malformed records of a document are those of its drafts with a fault, in order. -/
theorem malformed_ofDocument :
    (ofDocument document).malformed =
      (drafts document).filterMap fun p => malformed? p.1 p.2 := by
  rw [drafts, List.filterMap_flatMap]
  refine List.flatMap_congr fun d _ => ?_
  rw [malformedIn_eq_filterMap, List.filterMap_map]
  rfl

theorem mem_malformed_iff {m : Malformed} :
    m ∈ (ofDocument document).malformed ↔ m ∈ malformedIn document m.dataset := by
  constructor
  · intro h
    obtain ⟨d, -, hm⟩ := List.mem_flatMap.mp h
    have hdataset : m.dataset = d := by
      rw [malformedIn_eq_filterMap] at hm
      obtain ⟨draft, -, hdraft⟩ := List.mem_filterMap.mp hm
      exact (malformed?_eq_some_iff.mp hdraft).2.1
    rwa [hdataset]
  · exact fun h => List.mem_flatMap.mpr ⟨m.dataset, Dataset.mem_all _, h⟩

/-- The ids of the drafts of a dataset are those of its typed and of its malformed records. -/
theorem mem_ids_or_malformed_iff {d : Dataset} {id : String} :
    (id ∈ (ofDocument document).ids d ∨
      ∃ m ∈ (ofDocument document).malformed, m.dataset = d ∧ m.id = id) ↔
        id ∈ (Draft.ofDocument document d).map Draft.id := by
  rw [ids_ofDocument]
  constructor
  · rintro (h | ⟨m, hm, rfl, rfl⟩)
    · exact List.map_subset _ (List.filter_subset_self _) h
    · rw [mem_malformed_iff, malformedIn_eq_filterMap] at hm
      obtain ⟨draft, hdraft, hm⟩ := List.mem_filterMap.mp hm
      rw [(malformed?_eq_some_iff.mp hm).2.2]
      exact List.mem_map_of_mem hdraft
  · intro h
    obtain ⟨draft, hdraft, rfl⟩ := List.mem_map.mp h
    cases hfault : fault? d draft with
    | none =>
      exact .inl (List.mem_map_of_mem (List.mem_filter.mpr ⟨hdraft, by rw [hfault]; rfl⟩))
    | some fault =>
      refine .inr ⟨⟨d, draft.id, fault⟩, mem_malformed_iff.mpr ?_, rfl, rfl⟩
      rw [malformedIn_eq_filterMap]
      exact List.mem_filterMap.mpr ⟨draft, hdraft, malformed?_eq_some_iff.mpr ⟨hfault, rfl, rfl⟩⟩

end Content

end CombatContent
