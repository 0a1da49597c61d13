import CombatContent.Proofs.Audit.ReportRun
import Mathlib.Data.List.Induction

/-!
# Calls of a report

A report may be used in any order: entries are taken in, errors about references are taken in, and
references are resolved, early, late or more than once. What a report keeps track of is still told
by the entries that it stores at that moment. These are the entries that came, but for an error on
an entry whose dataset and id an earlier one had already.

## Main definitions

* `Call`, `Report.afterCalls`: calls, and the report after some of them.
* `Report.unknownIn`: what the references of entries are reported for.
* `Report.Tracks`: what a report knows, in terms of the entries that came and those it stores.

## Main results

* `Report.Tracks.call`: one call keeps track.
* `Report.tracks_afterCalls`: any calls do.
* `Report.afterCalls_state`: the state of a report after any calls, and what the next one adds.
-/

namespace CombatContent.Audit

/-- One use of a report. -/
inductive Call where
  | add (e : Entry)
  | addCrossReferenceError (message : String)
  | resolve

/-- The entry that comes with a call. -/
def Call.entry? : Call → Option Entry
  | .add e => some e
  | .addCrossReferenceError _ => none
  | .resolve => none

namespace Report

/-- The report after one more call. -/
def call (r : Report) : Call → Report
  | .add e => r.add e
  | .addCrossReferenceError message => r.addCrossReferenceError message
  | .resolve => r.resolve

/-- The report after some calls. -/
def afterCalls (calls : List Call) : Report := calls.foldl call empty

/-- What the references of entries to records that none of the entries declares are reported for,
in order of the entries and of their references. -/
def unknownIn (es : List Entry) : List String :=
  es.flatMap fun e => e.references.filterMap fun ref =>
    match ref.target with
    | .record d =>
      if (d, ref.id) ∈ es.map Entry.key then none else some (unknownMessage e d ref.id)
    | .tissueMaterial => none

/-- What a report knows after some entries have come: it stores them in order, with an error on
those whose dataset and id an earlier one had, it declares the ids of the entries that it stores,
and it lists the materials of tissue that these name. -/
structure Tracks (r : Report) (came : List Entry) : Prop where
  getElem?_entries : ∀ i, r.entries[i]? = came[i]?.map fun e =>
    if e.key ∈ (r.entries.take i).map Entry.key then
      e.error ("duplicate id '" ++ e.id ++ "' in " ++ e.dataset.key)
    else e
  declares_iff : ∀ d id, r.declares d id = true ↔ ∃ e ∈ r.entries, e.dataset = d ∧ e.id = id
  mem_tissueMaterials_iff : ∀ id, id ∈ r.tissueMaterials ↔
    ∃ e ∈ r.entries, ⟨.tissueMaterial, id⟩ ∈ e.references

variable {r : Report} {came : List Entry}

/-! ### Verdicts -/

/-- A report passes just if it does not fail and no entry has a warning. -/
theorem status_eq_passed_iff (r : Report) :
    r.status = .passed ↔ r.status ≠ .failed ∧ ¬ ∃ e ∈ r.entries, e.warnings ≠ [] := by
  have hpassed : r.status = .passed ↔ r.status ≠ .failed ∧ r.status ≠ .passedWithWarnings := by
    cases r.status <;> simp
  rw [hpassed]
  refine and_congr_right fun hne => not_congr ?_
  rw [status_eq_passedWithWarnings_iff, and_iff_right hne]
  simp only [Entry.hasWarnings_iff]

/-! ### One call -/

theorem mem_tissueMaterialsOf {e : Entry} {id : String} :
    id ∈ tissueMaterialsOf e ↔ ⟨.tissueMaterial, id⟩ ∈ e.references := by
  simp only [tissueMaterialsOf, List.mem_map, List.mem_filter, decide_eq_true_eq]
  constructor
  · rintro ⟨⟨target, id'⟩, ⟨hmem, rfl⟩, rfl⟩
    exact hmem
  · exact fun hmem => ⟨_, ⟨hmem, rfl⟩, rfl⟩

theorem references_stored (r : Report) (e : Entry) : (r.stored e).references = e.references :=
  apply_stored r (g := Entry.references) (fun _ _ => rfl) e

theorem key_stored (r : Report) (e : Entry) : (r.stored e).key = e.key :=
  apply_stored r (g := Entry.key) (fun _ _ => rfl) e

/-- The ids that are declared are those of the stored entries. -/
theorem Tracks.declares_iff_mem (h : r.Tracks came) {d : Dataset} {id : String} :
    r.declares d id = true ↔ (d, id) ∈ r.entries.map Entry.key := by
  rw [h.declares_iff, List.mem_map]
  simp only [Entry.key, Prod.mk.injEq]

/-- An entry is stored with an error just if an earlier one has its dataset and id. -/
theorem Tracks.stored_eq (h : r.Tracks came) (e : Entry) :
    r.stored e =
      if e.key ∈ r.entries.map Entry.key then
        e.error ("duplicate id '" ++ e.id ++ "' in " ++ e.dataset.key)
      else e := by
  rw [stored]
  exact if_congr h.declares_iff_mem rfl rfl

theorem Tracks.length_entries (h : r.Tracks came) : r.entries.length = came.length := by
  refine Nat.le_antisymm ?_ ?_
  · have hnone := h.getElem?_entries came.length
    rw [List.getElem?_eq_none (Nat.le_refl _), Option.map_none] at hnone
    exact List.getElem?_eq_none_iff.mp hnone
  · have hnone := h.getElem?_entries r.entries.length
    rw [List.getElem?_eq_none (Nat.le_refl _), eq_comm, Option.map_eq_none_iff] at hnone
    exact List.getElem?_eq_none_iff.mp hnone

theorem tracks_empty : empty.Tracks [] where
  getElem?_entries _ := rfl
  declares_iff d id := by simp
  mem_tissueMaterials_iff id := by simp [NameSet.mem_def, empty, NameSet.empty]

/-- What does not touch the entries, the declared ids and the materials keeps track. -/
theorem Tracks.congr (h : r.Tracks came) {r' : Report} (hentries : r'.entries = r.entries)
    (hdeclared : r'.declared = r.declared) (hmaterials : r'.tissueMaterials = r.tissueMaterials) :
    r'.Tracks came where
  getElem?_entries := by
    rw [hentries]
    exact h.getElem?_entries
  declares_iff d id := by
    rw [hentries, declares, hdeclared]
    exact h.declares_iff d id
  mem_tissueMaterials_iff := by
    rw [hentries, hmaterials]
    exact h.mem_tissueMaterials_iff

/-- Taking an entry in keeps track of it. -/
theorem Tracks.add (h : r.Tracks came) (e : Entry) : (r.add e).Tracks (came ++ [e]) where
  getElem?_entries i := by
    have hlength := h.length_entries
    rw [Report.add]
    rcases Nat.lt_trichotomy i r.entries.length with hlt | rfl | hgt
    · -- The entries in front of the new one are stored as they were.
      rw [List.getElem?_append_left hlt, List.getElem?_append_left (hlength ▸ hlt),
        h.getElem?_entries, List.take_append_of_le_length (Nat.le_of_lt hlt)]
    · rw [List.getElem?_concat_length, List.take_left, hlength, List.getElem?_concat_length,
        Option.map_some, h.stored_eq]
    · have hbeyond (es : List Entry) (x : Entry) (hes : es.length < i) :
          (es ++ [x])[i]? = none := by
        rw [List.getElem?_eq_none_iff, List.length_append, List.length_singleton]
        exact hes
      rw [hbeyond _ _ hgt, hbeyond _ _ (hlength ▸ hgt), Option.map_none]
  declares_iff d id := by
    rw [declares_add, h.declares_iff_mem, Report.add, ← List.mem_singleton, ← List.mem_append]
    rw [← key_stored r e, ← List.map_singleton, ← List.map_append, List.mem_map]
    simp only [Entry.key, Prod.mk.injEq]
  mem_tissueMaterials_iff id := by
    rw [Report.add, NameSet.mem_foldl_insert, h.mem_tissueMaterials_iff, mem_tissueMaterialsOf]
    simp only [List.mem_append, List.mem_singleton, or_and_right, exists_or, exists_eq_left,
      references_stored]

/-- One call keeps track. -/
theorem Tracks.call (h : r.Tracks came) (c : Call) :
    (r.call c).Tracks (came ++ c.entry?.toList) := by
  cases c with
  | add e => exact h.add e
  | addCrossReferenceError message =>
    rw [Call.entry?, Option.toList_none, List.append_nil]
    exact h.congr rfl rfl rfl
  | resolve =>
    rw [Call.entry?, Option.toList_none, List.append_nil, Report.call, resolve_eq]
    exact h.congr rfl rfl rfl

/-- Resolving reports the references to records that no stored entry declares. -/
theorem Tracks.unresolved_eq (h : r.Tracks came) : r.unresolved = unknownIn r.entries := by
  refine List.flatMap_congr fun e _ => List.filterMap_congr fun ref _ => ?_
  cases htarget : ref.target with
  | record d =>
    rw [unresolved?, htarget]
    exact if_congr h.declares_iff_mem rfl rfl
  | tissueMaterial => rw [unresolved?, htarget]

/-! ### Any calls -/

theorem afterCalls_concat (calls : List Call) (c : Call) :
    afterCalls (calls ++ [c]) = (afterCalls calls).call c := List.foldl_concat ..

/-- After any calls a report knows the entries that came with them. -/
theorem tracks_afterCalls (calls : List Call) :
    (afterCalls calls).Tracks (calls.filterMap Call.entry?) := by
  induction calls using List.reverseRecOn with
  | nil => exact tracks_empty
  | append_singleton calls c ih =>
    rw [afterCalls_concat, List.filterMap_append]
    have hentry : [c].filterMap Call.entry? = c.entry?.toList := by cases c <;> rfl
    rw [hentry]
    exact ih.call c

/-- After any calls, a report stores the entries that came in order, unchanged but for an error on
those whose dataset and id an earlier stored entry has; it declares and lists what the stored
entries have; and its verdict is told by their findings and the errors about references. To these
errors the next call adds its own message, or one for each reference to a record that no entry
stored at that moment declares, and resolving changes nothing else. -/
theorem afterCalls_state (calls : List Call) :
    let r := afterCalls calls
    let resolved := afterCalls (calls ++ [.resolve])
    r.Tracks (calls.filterMap Call.entry?) ∧
    (∀ e, (afterCalls (calls ++ [.add e])).crossReferenceErrors = r.crossReferenceErrors) ∧
    (∀ message, (afterCalls (calls ++ [.addCrossReferenceError message])).crossReferenceErrors =
      r.crossReferenceErrors ++ [message]) ∧
    (resolved.crossReferenceErrors = r.crossReferenceErrors ++ unknownIn r.entries ∧
      resolved.entries = r.entries ∧ (∀ d id, resolved.declares d id = r.declares d id) ∧
      resolved.tissueMaterials = r.tissueMaterials) ∧
    (r.status = .failed ↔
      (∃ e ∈ r.entries, e.errors ≠ []) ∨ r.crossReferenceErrors ≠ []) ∧
    (r.status = .passedWithWarnings ↔
      r.status ≠ .failed ∧ ∃ e ∈ r.entries, e.warnings ≠ []) ∧
    (r.status = .passed ↔
      r.status ≠ .failed ∧ ¬ ∃ e ∈ r.entries, e.warnings ≠ []) := by
  intro r resolved
  have htracks : r.Tracks (calls.filterMap Call.entry?) := tracks_afterCalls calls
  refine ⟨htracks, fun e => ?_, fun message => ?_, ?_, ?_, ?_, status_eq_passed_iff r⟩
  · rw [afterCalls_concat]
    rfl
  · rw [afterCalls_concat]
    rfl
  · rw [show resolved = r.resolve from afterCalls_concat .., resolve_eq, htracks.unresolved_eq]
    exact ⟨rfl, rfl, fun _ _ => rfl, rfl⟩
  · simpa only [Entry.hasErrors_iff] using status_eq_failed_iff r
  · simpa only [Entry.hasWarnings_iff] using status_eq_passedWithWarnings_iff r

end Report

end CombatContent.Audit
