import CombatContent.Proofs.Content.Drafts

/-!
# Drafts split into records and malformed records

The drafts of a dataset are split in two: a draft that is typed becomes a record with its id, and
one that is not becomes a malformed record with its id. Both sides keep the order of the drafts, and
no draft is on both sides or on neither. The sides of all eight datasets are told apart by kind, so
that what is set aside in one dataset is not taken for a record of another.

## Main definitions

* `Draft.Splits`: records and malformed records that drafts are split into.
* `Dataset.Data`, `Content.recordsOf`: the records of a dataset, each kind with its own type.
* `Content.malformedOf`: the malformed records of a dataset.

## Main results

* `Draft.Splits.ids_perm`: a split loses no id and adds none.
* `Content.splits_ofDocument`: the drafts of a document are split, dataset by dataset.
* `Content.malformed_eq_flatMap`: malformed records are in dataset order.
-/

namespace CombatContent

/-! ### Splitting a list of drafts -/

namespace Draft

/-- Drafts of a dataset are split into records and malformed records: each draft in order gives the
next of the records, if its node is typed, and else the next of the malformed ones. -/
inductive Splits {α : Type} (read : Typing.Reader α) (dataset : Dataset) :
    List Draft → List (Record α) → List Malformed → Prop
  | nil : Splits read dataset [] [] []
  | typed {id : String} {node : Tree} {data : α} {ds rs ms}
      (hread : read node.dropNulls = .ok data) (h : Splits read dataset ds rs ms) :
      Splits read dataset (⟨id, node⟩ :: ds) (⟨id, data⟩ :: rs) ms
  | malformed {id : String} {node : Tree} {fault : Typing.Fault} {ds rs ms}
      (hread : read node.dropNulls = .error fault) (h : Splits read dataset ds rs ms) :
      Splits read dataset (⟨id, node⟩ :: ds) rs (⟨dataset, id, fault⟩ :: ms)

variable {α : Type} {read : Typing.Reader α} {dataset : Dataset} {ds : List Draft}
  {rs : List (Record α)} {ms : List Malformed}

/-- Typing what can be typed and setting the rest aside is a split. -/
theorem splits_records_malformed (read : Typing.Reader α) (dataset : Dataset) (ds : List Draft) :
    Splits read dataset ds (records read ds) (Draft.malformed read dataset ds) := by
  induction ds with
  | nil => exact .nil
  | cons d ds ih =>
    obtain ⟨id, node⟩ := d
    cases hread : read node.dropNulls with
    | ok data =>
      have htyped : (Draft.mk id node).typed read = .ok ⟨id, data⟩ := by
        rw [Draft.typed, hread, Except.map]
      rw [records, Draft.malformed, List.filterMap_cons_some (by rw [htyped]),
        List.filterMap_cons_none (by rw [htyped])]
      exact .typed hread ih
    | error fault =>
      have htyped : (Draft.mk id node).typed read = .error fault := by
        rw [Draft.typed, hread, Except.map]
      rw [records, Draft.malformed, List.filterMap_cons_none (by rw [htyped]),
        List.filterMap_cons_some (by rw [htyped])]
      exact .malformed hread ih

/-- A split loses no id and adds none. -/
theorem Splits.ids_perm (h : Splits read dataset ds rs ms) :
    (rs.map Record.id ++ ms.map Malformed.id).Perm (ds.map Draft.id) := by
  induction h with
  | nil => exact .refl _
  | typed _ _ ih => exact ih.cons _
  | malformed _ _ ih => exact List.perm_middle.trans (ih.cons _)

/-- A split keeps the number of drafts. -/
theorem Splits.length_add_length (h : Splits read dataset ds rs ms) :
    rs.length + ms.length = ds.length := by
  have hlength := h.ids_perm.length_eq
  rwa [List.length_append, List.length_map, List.length_map, List.length_map] at hlength

end Draft

/-! ### The sides of a document -/

/-- The type of the records of a dataset. -/
def Dataset.Data : Dataset → Type
  | .weapons => Weapon
  | .techniques => Technique
  | .armourMaterials => ArmourMaterial
  | .armourPieces => ArmourPiece
  | .tissueTemplates => TissueTemplate
  | .bodyPlans => BodyPlan
  | .species => Species
  | .combatTests => CombatTest

/-- Reads a record of a dataset. -/
def Dataset.reader : (d : Dataset) → Typing.Reader d.Data
  | .weapons => Weapon.shape.read
  | .techniques => Technique.shape.read
  | .armourMaterials => ArmourMaterial.shape.read
  | .armourPieces => ArmourPiece.shape.read
  | .tissueTemplates => TissueTemplate.shape.read
  | .bodyPlans => BodyPlan.shape.read
  | .species => Species.shape.read
  | .combatTests => CombatTest.shape.read

namespace Content

/-- The typed records of a dataset. -/
def recordsOf (c : Content) : (d : Dataset) → List (Record d.Data)
  | .weapons => c.weapons
  | .techniques => c.techniques
  | .armourMaterials => c.armourMaterials
  | .armourPieces => c.armourPieces
  | .tissueTemplates => c.tissueTemplates
  | .bodyPlans => c.bodyPlans
  | .species => c.species
  | .combatTests => c.combatTests

/-- The malformed records of a dataset. -/
def malformedOf (c : Content) (d : Dataset) : List Malformed :=
  c.malformed.filter fun m => m.dataset = d

variable {c : Content} {document : Tree} {d : Dataset}

theorem map_id_recordsOf (c : Content) (d : Dataset) : (c.recordsOf d).map Record.id = c.ids d := by
  cases d <;> rfl

theorem length_recordsOf (c : Content) (d : Dataset) : (c.recordsOf d).length = c.count d := by
  cases d <;> rfl

theorem recordsOf_ofDocument (document : Tree) (d : Dataset) :
    (ofDocument document).recordsOf d = Draft.records d.reader (Draft.ofDocument document d) := by
  cases d <;> rfl

theorem malformedIn_eq (document : Tree) (d : Dataset) :
    malformedIn document d = Draft.malformed d.reader d (Draft.ofDocument document d) := by
  cases d <;> rfl

theorem dataset_of_mem_malformedIn {m : Malformed} (h : m ∈ malformedIn document d) :
    m.dataset = d := by
  rw [malformedIn_eq_filterMap] at h
  obtain ⟨draft, -, hdraft⟩ := List.mem_filterMap.mp h
  exact (malformed?_eq_some_iff.mp hdraft).2.1

/-- Where each dataset gives things of its own kind, one kind of all of them is what that dataset
gives. -/
theorem filter_flatMap_all {α : Type} {kind : α → Dataset} {f : Dataset → List α}
    (hf : ∀ d, ∀ x ∈ f d, kind x = d) (d : Dataset) :
    (Dataset.all.flatMap f).filter (fun x => kind x = d) = f d := by
  have hown : (f d).filter (fun x => kind x = d) = f d :=
    List.filter_eq_self.mpr fun x hx => decide_eq_true (hf d x hx)
  have hother (d' : Dataset) (hne : d' ≠ d) : (f d').filter (fun x => kind x = d) = [] :=
    List.filter_eq_nil_iff.mpr fun x hx heq =>
      hne ((hf d' x hx).symm.trans (of_decide_eq_true heq))
  have hkinds (d' : Dataset) :
      (f d').filter (fun x => kind x = d) = if d' = d then f d else [] := by
    split
    · next heq => rw [heq, hown]
    · next hne => exact hother d' hne
  rw [List.filter_flatMap]
  simp only [hkinds]
  cases d <;> simp [Dataset.all]

theorem malformedOf_ofDocument (document : Tree) (d : Dataset) :
    (ofDocument document).malformedOf d = malformedIn document d :=
  filter_flatMap_all (fun _ _ => dataset_of_mem_malformedIn) d

/-- The drafts of a dataset are split into its records and its malformed records. -/
theorem splits_ofDocument (document : Tree) (d : Dataset) :
    Draft.Splits d.reader d (Draft.ofDocument document d) ((ofDocument document).recordsOf d)
      ((ofDocument document).malformedOf d) := by
  rw [recordsOf_ofDocument, malformedOf_ofDocument, malformedIn_eq]
  exact Draft.splits_records_malformed ..

/-- Malformed records are in dataset order. -/
theorem malformed_eq_flatMap (document : Tree) :
    (ofDocument document).malformed =
      Dataset.all.flatMap (ofDocument document).malformedOf := by
  rw [funext (malformedOf_ofDocument document)]
  rfl

theorem isEmpty_iff :
    c.isEmpty = true ↔ c.malformed = [] ∧ ∀ d, c.recordsOf d = [] := by
  simp only [isEmpty, Bool.and_eq_true, List.isEmpty_iff, List.all_eq_true, beq_iff_eq,
    Dataset.mem_all, forall_const, ← length_recordsOf, List.length_eq_zero_iff]

/-- There is no record, typed or malformed, just if there is no draft. -/
theorem isEmpty_ofDocument_iff (document : Tree) :
    (ofDocument document).isEmpty = true ↔ ∀ d, Draft.ofDocument document d = [] := by
  have hlength (d : Dataset) := (splits_ofDocument document d).length_add_length
  rw [isEmpty_iff, malformed_eq_flatMap, List.flatMap_eq_nil_iff]
  constructor
  · rintro ⟨hmalformed, hrecords⟩ d
    have hd := hlength d
    rw [hrecords d, hmalformed d (Dataset.mem_all d)] at hd
    exact List.length_eq_zero_iff.mp hd.symm
  · intro hdrafts
    have hsides (d : Dataset) : (ofDocument document).recordsOf d = [] ∧
        (ofDocument document).malformedOf d = [] := by
      have hd := hlength d
      rw [hdrafts d, List.length_nil, Nat.add_eq_zero_iff] at hd
      exact hd.imp List.length_eq_zero_iff.mp List.length_eq_zero_iff.mp
    exact ⟨fun d _ => (hsides d).2, fun d => (hsides d).1⟩

end Content

end CombatContent
