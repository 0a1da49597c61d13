import CombatContent.Proofs.Audit.OneDataset

/-!
# No record is lost

From the drafts of a document to the entries of its audit no record is lost, doubled or moved to
another dataset. The drafts of every dataset are split into typed and malformed records. In an
audited dataset both give an entry each, so that an id has as many entries as it has drafts; in the
other two only what is malformed has one.

## Main definitions

* `IsEntryOfMalformed`: the entry of a malformed record in a report.

## Main results

* `ids_entriesOf_run`: the ids of the entries of a dataset.
* `countP_entries_run`: the entries of an id are as many as its drafts.
* `records_conserved`: what becomes of the drafts of a document.
-/

namespace CombatContent.Audit

/-- An entry has the id of a malformed record, and says first that the record is malformed and
why. -/
def IsEntryOfMalformed (e : Entry) (m : Malformed) : Prop :=
  e.dataset = m.dataset ∧ e.id = m.id ∧
    ∃ others, e.errors = ("Malformed record: " ++ m.fault.message) :: others

variable {c : Content} {document : Tree} {d : Dataset} {id : String}

theorem isEntryOfMalformed_of_isStoredAs {m : Malformed} {e : Entry}
    (h : (malformedEntry m).IsStoredAs e) : IsEntryOfMalformed e m := by
  obtain ⟨others, herrors⟩ := h.prefix_errors
  exact ⟨h.dataset_eq, h.id_eq, others, herrors.symm⟩

/-! ### Ids of entries -/

/-- The typed records of an audited dataset have an entry each, and those of the other datasets have
none. -/
theorem ids_typedEntries (c : Content) (d : Dataset) :
    (typedEntries c d).map Entry.id = if d ∈ Dataset.audited then c.ids d else [] := by
  split
  · next hd =>
    have hkeys := congrArg (List.map Prod.snd) (keys_typedEntries (c := c) hd)
    rw [List.map_map, List.map_map] at hkeys
    exact hkeys.trans (List.map_id _)
  · next hd => rw [typedEntries_of_not_mem_audited hd, List.map_nil]

/-- The ids of the entries of a dataset: those of its typed records, if it is audited, and then
those of its malformed ones. -/
theorem ids_entriesOf_run (c : Content) (d : Dataset) :
    ((run c).entriesOf d).map Entry.id =
      (if d ∈ Dataset.audited then c.ids d else []) ++ (c.malformedOf d).map Malformed.id := by
  rw [map_id_eq_of_forall₂ (forall₂_entriesOf_run c d), List.map_append, ids_typedEntries,
    List.map_map]
  rfl

/-- In an audited dataset, the entries of an id are as many as its drafts. -/
theorem countP_entries_run (hd : d ∈ Dataset.audited) (document : Tree) (id : String) :
    (run (Content.ofDocument document)).entries.countP (fun e => e.dataset = d ∧ e.id = id) =
      (Draft.ofDocument document d).countP fun draft => draft.id = id := by
  have hids := ids_entriesOf_run (Content.ofDocument document) d
  rw [if_pos hd, ← Content.map_id_recordsOf] at hids
  have hdrafts := (Content.splits_ofDocument document d).ids_perm
  calc (run (Content.ofDocument document)).entries.countP (fun e => e.dataset = d ∧ e.id = id)
      = ((run (Content.ofDocument document)).entriesOf d).countP (fun e => e.id = id) := by
        rw [Report.entriesOf, List.countP_filter]
        simp only [Bool.decide_and, Bool.and_comm]
    _ = (((run (Content.ofDocument document)).entriesOf d).map Entry.id).count id := by
        rw [List.count, List.countP_map]
        rfl
    _ = ((Draft.ofDocument document d).map Draft.id).count id := by
        rw [hids, hdrafts.count_eq]
    _ = (Draft.ofDocument document d).countP fun draft => draft.id = id := by
        rw [List.count, List.countP_map]
        rfl

/-! ### Conservation -/

/-- The entries of a dataset are those of its typed records, if it is audited, followed by those of
its malformed ones. -/
theorem exists_entriesOf_run_eq_append (c : Content) (d : Dataset) :
    ∃ typed malformed, (run c).entriesOf d = typed ++ malformed ∧
      List.Forall₂ Entry.IsStoredAs (typedEntries c d) typed ∧
      List.Forall₂ IsEntryOfMalformed malformed (c.malformedOf d) := by
  have hstored := (forall₂_entriesOf_run c d).flip
  have htyped := List.forall₂_take_append _ _ _ hstored
  have hmalformed := List.forall₂_drop_append _ _ _ hstored
  refine ⟨_, _, (List.take_append_drop (typedEntries c d).length _).symm, htyped.flip, ?_⟩
  rw [List.forall₂_map_right_iff] at hmalformed
  exact hmalformed.imp fun _ _ => isEntryOfMalformed_of_isStoredAs

/-- In every dataset of a document, each draft becomes just one record, typed or malformed, of its
id and in its place among those of its side; malformed records are in dataset order; and there is no
record at all just if there is no draft. In the audit, an id of an audited dataset has as many
entries as drafts; the entries of a dataset are those of its typed records, if it is audited, and
then those of its malformed ones, which say that they are malformed. -/
theorem records_conserved (document : Tree) :
    let c := Content.ofDocument document
    let r := run c
    (∀ d, Draft.Splits d.reader d (Draft.ofDocument document d) (c.recordsOf d) (c.malformedOf d) ∧
      c.count d + (c.malformedOf d).length = (Draft.ofDocument document d).length) ∧
    c.malformed = Dataset.all.flatMap c.malformedOf ∧
    (c.isEmpty = true ↔ ∀ d, Draft.ofDocument document d = []) ∧
    (∀ d ∈ Dataset.audited, ∀ id,
      r.entries.countP (fun e => e.dataset = d ∧ e.id = id) =
        (Draft.ofDocument document d).countP fun draft => draft.id = id) ∧
    ∀ d, ∃ typed malformed, r.entriesOf d = typed ++ malformed ∧
      typed.map Entry.id = (if d ∈ Dataset.audited then c.ids d else []) ∧
      List.Forall₂ Entry.IsStoredAs (typedEntries c d) typed ∧
      List.Forall₂ IsEntryOfMalformed malformed (c.malformedOf d) := by
  intro c r
  refine ⟨fun d => ?_, Content.malformed_eq_flatMap document,
    Content.isEmpty_ofDocument_iff document, fun d hd id => countP_entries_run hd document id,
    fun d => ?_⟩
  · have hsplits := Content.splits_ofDocument document d
    refine ⟨hsplits, ?_⟩
    rw [← Content.length_recordsOf]
    exact hsplits.length_add_length
  · obtain ⟨typed, malformed, hentries, htyped, hmalformed⟩ := exists_entriesOf_run_eq_append c d
    refine ⟨typed, malformed, hentries, ?_, htyped, hmalformed⟩
    rw [map_id_eq_of_forall₂ htyped, ids_typedEntries]

end CombatContent.Audit
