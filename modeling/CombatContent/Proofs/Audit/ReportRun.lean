import CombatContent.Audit.Report
import Mathlib.Data.List.Nodup

/-!
# Runs of a report

A report takes entries in one after the other. It stores each of them as it came, but for an error
on an entry whose dataset and id are known already. Whatever does not look at errors is therefore
the same of the entries that came and of the entries that are stored, and an entry is in error
afterwards because it came so or because its id came twice.

## Main definitions

* `Entry.key`: what a report knows an entry by.
* `Entry.Refers`: the records that an entry refers to.

## Main results

* `Report.declares_addAll`: the ids that a run declares are those of its entries.
* `Report.map_entries_addAll`: a run changes nothing but errors.
* `Report.exists_hasErrors_addAll`: where errors come from in a run.
* `Report.status_eq_failed_iff`, `Report.status_eq_passedWithWarnings_iff`: the verdict.
-/

namespace CombatContent.Audit

/-- The dataset and the id of an entry. -/
def Entry.key (e : Entry) : Dataset × String := (e.dataset, e.id)

/-- Whether an entry refers to a record of a dataset by its id. -/
def Entry.Refers (e : Entry) (d : Dataset) (id : String) : Prop :=
  ⟨.record d, id⟩ ∈ e.references

@[simp]
theorem Entry.hasErrors_error (e : Entry) (m : String) : (e.error m).hasErrors = true := by
  simp [Entry.hasErrors, Entry.error]

theorem Entry.hasErrors_iff {e : Entry} : e.hasErrors = true ↔ e.errors ≠ [] := by
  simp [Entry.hasErrors]

theorem Entry.hasWarnings_iff {e : Entry} : e.hasWarnings = true ↔ e.warnings ≠ [] := by
  simp [Entry.hasWarnings]

namespace Report

variable (r : Report)

@[simp]
theorem declares_empty (d : Dataset) (id : String) : empty.declares d id = false := rfl

@[simp]
theorem entries_empty : empty.entries = [] := rfl

@[simp]
theorem addAll_nil : r.addAll [] = r := rfl

@[simp]
theorem addAll_cons (e : Entry) (es : List Entry) : r.addAll (e :: es) = (r.add e).addAll es := rfl

/-! ### One entry -/

theorem declares_iff {d : Dataset} {id : String} :
    r.declares d id = true ↔ (d, id) ∈ r.declared := by
  simp [declares]

/-- Taking an entry in declares its id. -/
theorem declares_add {e : Entry} {d : Dataset} {id : String} :
    (r.add e).declares d id = true ↔ r.declares d id = true ∨ (d, id) = e.key := by
  rw [declares_iff, declares_iff, add]
  split
  · next h =>
    constructor
    · exact Or.inl
    · rintro (h' | h')
      · exact h'
      · rw [h']
        exact (declares_iff r).mp h
  · rw [List.mem_cons, or_comm]
    rfl

/-- An entry is stored in error if it came so or if its id is declared already. -/
theorem hasErrors_stored {e : Entry} :
    (r.stored e).hasErrors = true ↔ e.hasErrors = true ∨ r.declares e.dataset e.id = true := by
  rw [stored]
  split
  · next h => simp [h]
  · next h => simp [h]

/-- What does not look at errors is the same of an entry as it came and as it is stored. -/
theorem apply_stored {β : Type} {g : Entry → β} (hg : ∀ e m, g (e.error m) = g e) (e : Entry) :
    g (r.stored e) = g e := by
  rw [stored]
  split
  · exact hg e _
  · rfl

/-! ### Runs -/

/-- The ids that a run declares are those of its entries, after those that were declared before. -/
theorem declares_addAll {es : List Entry} {d : Dataset} {id : String} :
    (r.addAll es).declares d id = true ↔
      r.declares d id = true ∨ (d, id) ∈ es.map Entry.key := by
  induction es generalizing r with
  | nil => simp
  | cons e es ih =>
    rw [addAll_cons, ih, declares_add, List.map_cons, List.mem_cons, or_assoc]

/-- Taking entries in leaves the errors about references as they are. -/
theorem crossReferenceErrors_addAll (es : List Entry) :
    (r.addAll es).crossReferenceErrors = r.crossReferenceErrors := by
  induction es generalizing r with
  | nil => rfl
  | cons e es ih => rw [addAll_cons, ih, add]

/-- A run changes nothing of its entries but errors. -/
theorem map_entries_addAll {β : Type} {g : Entry → β} (hg : ∀ e m, g (e.error m) = g e)
    (es : List Entry) : (r.addAll es).entries.map g = r.entries.map g ++ es.map g := by
  induction es generalizing r with
  | nil => simp
  | cons e es ih =>
    rw [addAll_cons, ih, add, List.map_append, List.map_singleton, apply_stored r hg,
      List.append_assoc, List.singleton_append, List.map_cons]

/-- An entry has a warning after a run just if it came with it. -/
theorem exists_hasWarnings_addAll (es : List Entry) :
    (∃ e ∈ (r.addAll es).entries, e.hasWarnings = true) ↔
      (∃ e ∈ r.entries, e.hasWarnings = true) ∨ ∃ e ∈ es, e.hasWarnings = true := by
  have h := map_entries_addAll r (g := Entry.hasWarnings) (fun _ _ => rfl) es
  have hmem := congrArg (true ∈ ·) h
  simpa only [List.mem_append, List.mem_map, eq_iff_iff] using hmem

/-- An entry is in error after a run because it was before, because it came so, because its id was
declared before, or because its id came twice. -/
theorem exists_hasErrors_addAll (es : List Entry) :
    (∃ e ∈ (r.addAll es).entries, e.hasErrors = true) ↔
      (∃ e ∈ r.entries, e.hasErrors = true) ∨ (∃ e ∈ es, e.hasErrors = true) ∨
        (∃ e ∈ es, r.declares e.dataset e.id = true) ∨ ¬ (es.map Entry.key).Nodup := by
  induction es generalizing r with
  | nil => simp
  | cons e es ih =>
    have hstored : (∃ x ∈ (r.add e).entries, x.hasErrors = true) ↔
        (∃ x ∈ r.entries, x.hasErrors = true) ∨ e.hasErrors = true ∨
          r.declares e.dataset e.id = true := by
      simp only [add, List.mem_append, List.mem_singleton, or_and_right, exists_or,
        exists_eq_left, hasErrors_stored]
    have hdeclared : (∃ x ∈ es, (r.add e).declares x.dataset x.id = true) ↔
        (∃ x ∈ es, r.declares x.dataset x.id = true) ∨ e.key ∈ es.map Entry.key := by
      simp only [declares_add, and_or_left, exists_or, List.mem_map]
      rfl
    rw [addAll_cons, ih, hstored, hdeclared]
    simp only [List.map_cons, List.nodup_cons, List.exists_mem_cons_iff, not_and_or, not_not,
      or_assoc, or_left_comm]

/-! ### References -/

/-- Errors about references are taken in at the end, and leave the rest of a report as it is. -/
theorem foldl_addCrossReferenceError (r : Report) (messages : List String) :
    messages.foldl addCrossReferenceError r =
      { r with crossReferenceErrors := r.crossReferenceErrors ++ messages } := by
  induction messages generalizing r with
  | nil => simp
  | cons message messages ih => simp [ih, addCrossReferenceError]

/-- Resolving references adds one error for each of those that are declared nowhere. -/
theorem resolve_eq :
    r.resolve = { r with crossReferenceErrors := r.crossReferenceErrors ++ r.unresolved } :=
  foldl_addCrossReferenceError r r.unresolved

/-- What is reported after a run from the empty report, in terms of the entries as they came. -/
theorem unresolved_addAll (es : List Entry) :
    (empty.addAll es).unresolved =
      es.flatMap fun e => e.references.filterMap ((empty.addAll es).unresolved? e) := by
  have h := map_entries_addAll empty
    (g := fun e => e.references.filterMap ((empty.addAll es).unresolved? e))
    (fun _ _ => rfl) es
  rw [unresolved, List.flatMap_def, h, List.flatMap_def]
  rfl

theorem unresolved?_record (e : Entry) (d : Dataset) (id : String) :
    r.unresolved? e ⟨.record d, id⟩ =
      if r.declares d id then none else some (unknownMessage e d id) := rfl

/-- References are in error just if some entry refers to a record that no entry declares. -/
theorem unresolved_addAll_ne_nil {es : List Entry} :
    (empty.addAll es).unresolved ≠ [] ↔
      ∃ e ∈ es, ∃ d id, e.Refers d id ∧ (d, id) ∉ es.map Entry.key := by
  have hdeclares (d : Dataset) (id : String) :
      (empty.addAll es).declares d id = true ↔ (d, id) ∈ es.map Entry.key := by
    rw [declares_addAll, declares_empty]
    simp
  rw [unresolved_addAll, ne_eq, List.flatMap_eq_nil_iff]
  simp only [List.filterMap_eq_nil_iff, not_forall, exists_prop]
  refine exists_congr fun e => and_congr_right fun _ => ?_
  constructor
  · rintro ⟨⟨target, id⟩, href, hne⟩
    cases target with
    | record d =>
      refine ⟨d, id, href, fun hid => hne ?_⟩
      rw [unresolved?_record, if_pos ((hdeclares d id).mpr hid)]
    | tissueMaterial => exact absurd rfl hne
  · rintro ⟨d, id, href, hid⟩
    refine ⟨⟨.record d, id⟩, href, ?_⟩
    rw [unresolved?_record, if_neg (mt (hdeclares d id).mp hid)]
    exact Option.some_ne_none _

/-! ### Verdicts -/

theorem hasErrors_iff :
    r.hasErrors = true ↔
      (∃ e ∈ r.entries, e.hasErrors = true) ∨ r.crossReferenceErrors ≠ [] := by
  simp only [hasErrors, errorCount, decide_eq_true_eq, Nat.add_pos_iff_pos_or_pos,
    List.countP_pos_iff, List.length_pos_iff]

theorem warningCount_pos_iff :
    0 < r.warningCount ↔ ∃ e ∈ r.entries, e.hasWarnings = true :=
  List.countP_pos_iff

/-- A report fails just if an entry or a reference is in error. -/
theorem status_eq_failed_iff :
    r.status = .failed ↔
      (∃ e ∈ r.entries, e.hasErrors = true) ∨ r.crossReferenceErrors ≠ [] := by
  rw [← hasErrors_iff, status]
  split
  · simp [*]
  · split <;> simp [*]

/-- A report passes with warnings just if it does not fail and an entry has a warning. -/
theorem status_eq_passedWithWarnings_iff :
    r.status = .passedWithWarnings ↔
      r.status ≠ .failed ∧ ∃ e ∈ r.entries, e.hasWarnings = true := by
  rw [← warningCount_pos_iff, status]
  split
  · simp
  · split <;> simp [*]

/-- A run whose references are resolved at its end fails because an entry came in error, because a
key came twice, or because an entry refers to a record that no entry declares. -/
theorem status_resolve_addAll_eq_failed_iff {es : List Entry} :
    (empty.addAll es).resolve.status = .failed ↔
      (∃ e ∈ es, e.hasErrors = true) ∨ ¬ (es.map Entry.key).Nodup ∨
        ∃ e ∈ es, ∃ d id, e.Refers d id ∧ (d, id) ∉ es.map Entry.key := by
  have hcross : (empty.addAll es).crossReferenceErrors = [] :=
    crossReferenceErrors_addAll empty es
  rw [status_eq_failed_iff, resolve_eq, hcross, List.nil_append, unresolved_addAll_ne_nil,
    exists_hasErrors_addAll]
  simp [or_assoc]

/-- A run whose references are resolved at its end passes with warnings just if it does not fail
and an entry came with a warning. -/
theorem status_resolve_addAll_eq_passedWithWarnings_iff {es : List Entry} :
    (empty.addAll es).resolve.status = .passedWithWarnings ↔
      (empty.addAll es).resolve.status ≠ .failed ∧ ∃ e ∈ es, e.hasWarnings = true := by
  rw [status_eq_passedWithWarnings_iff, resolve_eq, exists_hasWarnings_addAll]
  simp

end Report

end CombatContent.Audit
