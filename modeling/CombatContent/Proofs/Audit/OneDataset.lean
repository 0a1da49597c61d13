import CombatContent.Proofs.Audit.ReportRun
import CombatContent.Proofs.Content.Splitting
import Mathlib.Data.List.Forall2

/-!
# One dataset of a report

An entry meets only its own dataset: whether its id is declared already is asked for that dataset
alone, and it is declared there alone. So what a run of entries makes of one dataset is told by the
entries of that dataset, whatever comes between them. In an audit these are the entries of its typed
records, followed by those of its malformed ones.

## Main definitions

* `Entry.IsStoredAs`: what a report may make of an entry.
* `Report.AgreeOn`: two reports hold the same of a dataset.

## Main results

* `Report.AgreeOn.add`, `Report.agreeOn_add_of_ne`: what one entry does to one dataset.
* `Report.entriesOf_addAll_congr`: a run depends, in one dataset, on the entries of that dataset.
* `filter_entries`: the entries of one dataset in an audit.
* `forall₂_entriesOf_run`: what the audit stores of one dataset.
-/

namespace CombatContent.Audit

/-- A stored entry is the entry that came, or that entry with the error about its repeated id. -/
def Entry.IsStoredAs (e stored : Entry) : Prop :=
  stored = e ∨ stored = e.error (Report.duplicateMessage e.dataset e.id)

theorem Entry.IsStoredAs.dataset_eq {e stored : Entry} (h : e.IsStoredAs stored) :
    stored.dataset = e.dataset := by
  rcases h with rfl | rfl <;> rfl

theorem Entry.IsStoredAs.id_eq {e stored : Entry} (h : e.IsStoredAs stored) :
    stored.id = e.id := by
  rcases h with rfl | rfl <;> rfl

/-- Stored entries have the ids of those that came. -/
theorem map_id_eq_of_forall₂ {es stored : List Entry}
    (h : List.Forall₂ Entry.IsStoredAs es stored) : stored.map Entry.id = es.map Entry.id := by
  induction h with
  | nil => rfl
  | cons he _ ih => rw [List.map_cons, List.map_cons, he.id_eq, ih]

/-- The errors that an entry came with come first. -/
theorem Entry.IsStoredAs.prefix_errors {e stored : Entry} (h : e.IsStoredAs stored) :
    e.errors <+: stored.errors := by
  rcases h with rfl | rfl
  · exact List.prefix_refl _
  · exact List.prefix_append _ _

namespace Report

variable {r r' : Report} {d : Dataset} {e : Entry} {es es' : List Entry}

/-- Two reports hold the same entries of a dataset and declare the same ids there. -/
structure AgreeOn (d : Dataset) (r r' : Report) : Prop where
  entriesOf_eq : r.entriesOf d = r'.entriesOf d
  declares_eq : ∀ id, r.declares d id = r'.declares d id

/-! ### One entry -/

theorem isStoredAs_stored (r : Report) (e : Entry) : e.IsStoredAs (r.stored e) := by
  rw [stored]
  split
  · exact .inr rfl
  · exact .inl rfl

theorem dataset_stored (r : Report) (e : Entry) : (r.stored e).dataset = e.dataset :=
  (isStoredAs_stored r e).dataset_eq

theorem entriesOf_add (r : Report) (e : Entry) (d : Dataset) :
    (r.add e).entriesOf d =
      if e.dataset = d then r.entriesOf d ++ [r.stored e] else r.entriesOf d := by
  rw [entriesOf, add, List.filter_append, List.filter_singleton, dataset_stored]
  by_cases h : e.dataset = d
  · simp [h, entriesOf]
  · simp [h, entriesOf]

/-- An entry changes nothing in another dataset. -/
theorem agreeOn_add_of_ne (r : Report) (h : e.dataset ≠ d) : AgreeOn d (r.add e) r where
  entriesOf_eq := by rw [entriesOf_add, if_neg h]
  declares_eq id := by
    have hkey : (d, id) ≠ e.key := fun heq => h (congrArg Prod.fst heq).symm
    rw [Bool.eq_iff_iff, declares_add, or_iff_left hkey]

/-- Reports that agree on a dataset agree on it after one more entry of it. -/
theorem AgreeOn.add (h : AgreeOn d r r') (he : e.dataset = d) :
    AgreeOn d (r.add e) (r'.add e) where
  entriesOf_eq := by
    have hstored : r.stored e = r'.stored e := by rw [stored, stored, he, h.declares_eq]
    rw [entriesOf_add, entriesOf_add, if_pos he, if_pos he, h.entriesOf_eq, hstored]
  declares_eq id := by
    rw [Bool.eq_iff_iff, declares_add, declares_add, h.declares_eq]

/-! ### Runs -/

/-- In one dataset, a run does what the entries of that dataset do. -/
theorem AgreeOn.addAll_filter (h : AgreeOn d r r') (es : List Entry) :
    AgreeOn d (r.addAll es) (r'.addAll (es.filter fun e => e.dataset = d)) := by
  induction es generalizing r r' with
  | nil => exact h
  | cons e es ih =>
    by_cases hd : e.dataset = d
    · rw [List.filter_cons_of_pos (by simpa using hd)]
      exact ih (h.add hd)
    · rw [List.filter_cons_of_neg (by simpa using hd)]
      have hother := agreeOn_add_of_ne r hd
      exact ih ⟨hother.entriesOf_eq.trans h.entriesOf_eq,
        fun id => (hother.declares_eq id).trans (h.declares_eq id)⟩

/-- Runs with the same entries of a dataset in the same order store the same of it, whatever comes
between these entries. -/
theorem entriesOf_addAll_congr
    (h : (es.filter fun e => e.dataset = d) = es'.filter fun e => e.dataset = d) :
    (r.addAll es).entriesOf d = (r.addAll es').entriesOf d := by
  have hagree : AgreeOn d r r := ⟨rfl, fun _ => rfl⟩
  rw [(hagree.addAll_filter es).entriesOf_eq, h, ← (hagree.addAll_filter es').entriesOf_eq]

/-- A run stores its entries in order, each as it came or with the error about its repeated id. -/
theorem forall₂_entries_addAll (r : Report) (es : List Entry) :
    ∃ stored, (r.addAll es).entries = r.entries ++ stored ∧
      List.Forall₂ Entry.IsStoredAs es stored := by
  induction es generalizing r with
  | nil => exact ⟨[], (List.append_nil _).symm, .nil⟩
  | cons e es ih =>
    obtain ⟨stored, hentries, hstored⟩ := ih (r.add e)
    refine ⟨r.stored e :: stored, ?_, .cons (isStoredAs_stored r e) hstored⟩
    rw [addAll_cons, hentries, add, List.append_assoc, List.singleton_append]

/-- What a run stores of one dataset. -/
theorem forall₂_entriesOf_addAll (es : List Entry) (d : Dataset) :
    List.Forall₂ Entry.IsStoredAs (es.filter fun e => e.dataset = d)
      ((empty.addAll es).entriesOf d) := by
  obtain ⟨stored, hentries, hstored⟩ := forall₂_entries_addAll empty es
  have hkind : ∀ e x, Entry.IsStoredAs e x →
      (decide (e.dataset = d) = true ↔ decide (x.dataset = d) = true) := by
    intro e x h
    rw [h.dataset_eq]
  rw [entriesOf, hentries, entries_empty, List.nil_append]
  exact List.rel_filter hkind hstored

/-- Resolving references leaves entries as they are. -/
theorem entriesOf_resolve (r : Report) (d : Dataset) : r.resolve.entriesOf d = r.entriesOf d := by
  rw [resolve_eq]
  rfl

end Report

/-! ### Audits -/

variable {c : Content} {d : Dataset}

theorem typedEntries_of_not_mem_audited (hd : d ∉ Dataset.audited) : typedEntries c d = [] := by
  cases d with
  | species | combatTests => rfl
  | _ => exact absurd (by decide) hd

theorem dataset_of_mem_typedEntries {e : Entry} (h : e ∈ typedEntries c d) : e.dataset = d := by
  by_cases hd : d ∈ Dataset.audited
  · have hkey : e.key ∈ (c.ids d).map (Prod.mk d) :=
      keys_typedEntries hd ▸ List.mem_map_of_mem h
    obtain ⟨id, -, heq⟩ := List.mem_map.mp hkey
    exact (Prod.mk.inj heq).1.symm
  · rw [typedEntries_of_not_mem_audited hd] at h
    exact absurd h List.not_mem_nil

/-- The entries of one dataset are those of its typed records and then those of its malformed
ones. -/
theorem filter_entries (c : Content) (d : Dataset) :
    (entries c).filter (fun e => e.dataset = d) =
      typedEntries c d ++ (c.malformedOf d).map malformedEntry := by
  have htyped : Dataset.audited.flatMap (typedEntries c) =
      Dataset.all.flatMap (typedEntries c) := by
    simp [Dataset.audited, Dataset.all, typedEntries]
  rw [entries, List.filter_append, htyped, List.filter_map, Content.malformedOf,
    Content.filter_flatMap_all fun d e he => dataset_of_mem_typedEntries he]
  rfl

theorem entriesOf_run (c : Content) (d : Dataset) :
    (run c).entriesOf d = (Report.empty.addAll (entries c)).entriesOf d :=
  Report.entriesOf_resolve _ d

/-- What the audit stores of one dataset: the entries of its typed records and then those of its
malformed ones, each as it came or with the error about its repeated id. -/
theorem forall₂_entriesOf_run (c : Content) (d : Dataset) :
    List.Forall₂ Entry.IsStoredAs (typedEntries c d ++ (c.malformedOf d).map malformedEntry)
      ((run c).entriesOf d) := by
  rw [entriesOf_run, ← filter_entries]
  exact Report.forall₂_entriesOf_addAll ..

end CombatContent.Audit
