import CombatContent.Proofs.Audit.Summary

/-!
# The order of entries

Entries may come to a report in any order. The verdict, the warnings, the declared ids, the
materials of tissue and the errors about references stay the same, and the summary differs in no
count but that of entries in error. For of the entries of one dataset and id, the first to come is
stored as it is, and every later one with an error. So the order tells which of them are blamed, but
not how many.

## Main definitions

* `SummaryRow.outline`: what a row says besides its errors.
* `Report.BlamesLater`: which of the entries with one id are blamed.
* `Report.AgreesWith`: what two reports say alike.

## Main results

* `Report.blamesLater_addAll`: every entry of an id is blamed but the first.
* `Report.resolve_addAll_perm`: reports of the same entries in different orders.
-/

namespace CombatContent.Audit

/-- What a row of a summary says besides the entries in error. -/
def SummaryRow.outline (row : SummaryRow) : Dataset × Nat × Nat :=
  (row.dataset, row.total, row.withWarnings)

namespace Report

variable {r : Report} {e : Entry} {es es' : List Entry} {d : Dataset} {id : String}

/-- Of the entries that came with a dataset and an id, as many as the id has come, the report stores
the first as it came, and each of the others with the error about its repeated id. -/
def BlamesLater (r : Report) (es : List Entry) (d : Dataset) (id : String) : Prop :=
  ∃ first later, es.filter (fun e => e.key = (d, id)) = first :: later ∧
    later.length + 1 = (es.map Entry.key).count (d, id) ∧
    r.entries.filter (fun e => e.key = (d, id)) =
      first :: later.map fun e => e.error (duplicateMessage d id)

/-- Two reports agree, whichever entries they blame. -/
structure AgreesWith (r r' : Report) : Prop where
  status : r.status = r'.status
  hasErrors : r.hasErrors = r'.hasErrors
  warningCount : r.warningCount = r'.warningCount
  declares : ∀ d id, r.declares d id = r'.declares d id
  tissueMaterials : r.tissueMaterials = r'.tissueMaterials
  crossReferenceErrors : r.crossReferenceErrors.Perm r'.crossReferenceErrors
  summary : r.summary.map SummaryRow.outline = r'.summary.map SummaryRow.outline

/-! ### Which entries are blamed -/

theorem filter_key_add (r : Report) (e : Entry) (d : Dataset) (id : String) :
    (r.add e).entries.filter (fun e => e.key = (d, id)) =
      r.entries.filter (fun e => e.key = (d, id)) ++
        if e.key = (d, id) then [r.stored e] else [] := by
  have hkey : (r.stored e).key = e.key := apply_stored r (g := Entry.key) (fun _ _ => rfl) e
  rw [add, List.filter_append, List.filter_singleton, hkey]
  by_cases he : e.key = (d, id) <;> simp [he]

theorem stored_of_declares (h : r.declares d id = true) (he : e.key = (d, id)) :
    r.stored e = e.error (duplicateMessage d id) := by
  obtain ⟨rfl, rfl⟩ := Prod.mk.inj he
  rw [stored, if_pos h]

theorem stored_of_not_declares (h : ¬ r.declares d id = true) (he : e.key = (d, id)) :
    r.stored e = e := by
  obtain ⟨rfl, rfl⟩ := Prod.mk.inj he
  rw [stored, if_neg h]

/-- Once an id is declared, every entry that comes with it is blamed. -/
theorem filter_key_addAll_of_declares (h : r.declares d id = true) (es : List Entry) :
    (r.addAll es).entries.filter (fun e => e.key = (d, id)) =
      r.entries.filter (fun e => e.key = (d, id)) ++
        (es.filter fun e => e.key = (d, id)).map fun e => e.error (duplicateMessage d id) := by
  induction es generalizing r with
  | nil => simp
  | cons e es ih =>
    have hstill : (r.add e).declares d id = true := (declares_add r).mpr (.inl h)
    rw [addAll_cons, ih hstill, filter_key_add]
    by_cases he : e.key = (d, id)
    · rw [if_pos he, stored_of_declares h he, List.filter_cons_of_pos (by simpa using he),
        List.map_cons, List.append_assoc, List.singleton_append]
    · rw [if_neg he, List.append_nil, List.filter_cons_of_neg (by simpa using he)]

/-- The first entry that comes with an id is stored as it came, and those after it are blamed. -/
theorem filter_key_addAll_of_not_declares (h : ¬ r.declares d id = true) {first : Entry}
    {later : List Entry} (hes : es.filter (fun e => e.key = (d, id)) = first :: later) :
    (r.addAll es).entries.filter (fun e => e.key = (d, id)) =
      r.entries.filter (fun e => e.key = (d, id)) ++
        first :: later.map fun e => e.error (duplicateMessage d id) := by
  induction es generalizing r with
  | nil => exact absurd hes (by simp)
  | cons e es ih =>
    by_cases he : e.key = (d, id)
    · rw [List.filter_cons_of_pos (by simpa using he)] at hes
      obtain ⟨rfl, rfl⟩ := List.cons.inj hes
      have hnow : (r.add e).declares d id = true := (declares_add r).mpr (.inr he.symm)
      rw [addAll_cons, filter_key_addAll_of_declares hnow, filter_key_add, if_pos he,
        stored_of_not_declares h he, List.append_assoc, List.singleton_append]
    · rw [List.filter_cons_of_neg (by simpa using he)] at hes
      have hnot : ¬ (r.add e).declares d id = true := by
        rw [declares_add, not_or]
        exact ⟨h, fun heq => he heq.symm⟩
      rw [addAll_cons, ih hnot hes, filter_key_add, if_neg he, List.append_nil]

/-- Every entry of an id is blamed but the first. -/
theorem blamesLater_addAll (h : (d, id) ∈ es.map Entry.key) :
    (empty.addAll es).BlamesLater es d id := by
  obtain ⟨e, he, hkey⟩ := List.mem_map.mp h
  have hmem : e ∈ es.filter fun e => e.key = (d, id) :=
    List.mem_filter.mpr ⟨he, by simpa using hkey⟩
  obtain ⟨first, later, hes⟩ := List.exists_cons_of_ne_nil (List.ne_nil_of_mem hmem)
  refine ⟨first, later, hes, ?_, ?_⟩
  · have hcount : (es.map Entry.key).count (d, id) =
        (es.filter fun e => e.key = (d, id)).length := by
      rw [List.count, List.countP_map, ← List.countP_eq_length_filter]
      exact List.countP_congr fun e _ => by simp
    rw [hcount, hes, List.length_cons]
  · exact filter_key_addAll_of_not_declares (by simp) hes

/-! ### What does not depend on the order -/

theorem mem_tissueMaterials_addAll (r : Report) (es : List Entry) :
    id ∈ (r.addAll es).tissueMaterials ↔
      id ∈ r.tissueMaterials ∨ ∃ e ∈ es, id ∈ tissueMaterialsOf e := by
  induction es generalizing r with
  | nil => simp
  | cons e es ih =>
    rw [addAll_cons, ih, add, NameSet.mem_foldl_insert, List.exists_mem_cons_iff, or_assoc]

theorem declares_addAll_perm (h : es.Perm es') (d : Dataset) (id : String) :
    (empty.addAll es).declares d id = (empty.addAll es').declares d id := by
  rw [Bool.eq_iff_iff, declares_addAll, declares_addAll, (h.map Entry.key).mem_iff]

theorem tissueMaterials_addAll_perm (h : es.Perm es') :
    (empty.addAll es).tissueMaterials = (empty.addAll es').tissueMaterials := by
  ext id
  rw [mem_tissueMaterials_addAll, mem_tissueMaterials_addAll]
  simp only [h.mem_iff]

/-- References are reported for the same entries, as they meet the same declared ids. -/
theorem unresolved_addAll_perm (h : es.Perm es') :
    (empty.addAll es).unresolved.Perm (empty.addAll es').unresolved := by
  have hsame : (empty.addAll es).unresolved? = (empty.addAll es').unresolved? := by
    funext e ref
    rw [unresolved?, unresolved?]
    split
    · rw [declares_addAll_perm h]
    · rfl
  rw [unresolved_addAll, unresolved_addAll, hsame]
  exact h.flatMap_right _

/-- What does not look at errors is counted alike. -/
theorem countP_entries_addAll_perm {p : Entry → Bool} (hp : ∀ e m, p (e.error m) = p e)
    (h : es.Perm es') :
    (empty.addAll es).entries.countP p = (empty.addAll es').entries.countP p := by
  have hmap (es : List Entry) : (empty.addAll es).entries.countP p = es.countP p := by
    have hentries := map_entries_addAll empty hp es
    rw [entries_empty, List.map_nil, List.nil_append] at hentries
    have hcount := congrArg (List.countP (· = true)) hentries
    simpa only [List.countP_map, Function.comp_def, Bool.decide_eq_true] using hcount
  rw [hmap, hmap, h.countP_eq]

/-- The status is told by what does not depend on the order: which entries came in error or with a
warning, whether a key came twice, and which references lead to no entry. -/
theorem status_resolve_addAll_perm (h : es.Perm es') :
    (empty.addAll es).resolve.status = (empty.addAll es').resolve.status := by
  have hfailed : (empty.addAll es).resolve.status = .failed ↔
      (empty.addAll es').resolve.status = .failed := by
    rw [status_resolve_addAll_eq_failed_iff, status_resolve_addAll_eq_failed_iff,
      (h.map Entry.key).nodup_iff]
    simp only [h.mem_iff, (h.map Entry.key).mem_iff]
  have hwarned : (empty.addAll es).resolve.status = .passedWithWarnings ↔
      (empty.addAll es').resolve.status = .passedWithWarnings := by
    rw [status_resolve_addAll_eq_passedWithWarnings_iff,
      status_resolve_addAll_eq_passedWithWarnings_iff, ne_eq, ne_eq, hfailed]
    simp only [h.mem_iff]
  cases hs : (empty.addAll es).resolve.status with
  | failed => exact (hfailed.mp hs).symm
  | passedWithWarnings => exact (hwarned.mp hs).symm
  | passed =>
    rw [hs] at hfailed hwarned
    cases hs' : (empty.addAll es').resolve.status with
    | failed => exact absurd (hfailed.mpr hs') (by decide)
    | passedWithWarnings => exact absurd (hwarned.mpr hs') (by decide)
    | passed => rfl

theorem hasErrors_eq_of_status_eq {r r' : Report} (h : r.status = r'.status) :
    r.hasErrors = r'.hasErrors := by
  rw [Bool.eq_iff_iff, hasErrors_iff, hasErrors_iff, ← status_eq_failed_iff,
    ← status_eq_failed_iff, h]

/-- The rows of the summary agree in all but the entries in error. -/
theorem summary_addAll_perm (h : es.Perm es') :
    (empty.addAll es).summary.map SummaryRow.outline =
      (empty.addAll es').summary.map SummaryRow.outline := by
  have hdatasets : datasetsOf (empty.addAll es).entries Dataset.all =
      datasetsOf (empty.addAll es').entries Dataset.all := by
    refine List.filter_congr fun d _ => ?_
    have hcount := countP_entries_addAll_perm (p := fun e => e.dataset = d) (fun _ _ => rfl) h
    have hmem (entries : List Entry) : d ∈ entries.map Entry.dataset ↔
        0 < entries.countP fun e => e.dataset = d := by
      simp [List.countP_pos_iff]
    simp only [hmem, hcount]
  rw [summary_eq, summary_eq, hdatasets, List.map_map, List.map_map]
  refine List.map_congr_left fun d _ => ?_
  have htotal := countP_entries_addAll_perm (p := fun e => e.dataset = d) (fun _ _ => rfl) h
  have hwarned := countP_entries_addAll_perm
    (p := fun e => e.hasWarnings && decide (e.dataset = d)) (fun _ _ => rfl) h
  simp only [Function.comp_apply, SummaryRow.outline, rowOf, ← List.countP_eq_length_filter,
    List.countP_filter, htotal, hwarned]

/-- Reports of the same entries in different orders, with references resolved at their end, agree in
the status, the warnings, the declared ids, the materials of tissue, the references they report, and
the summary but for the entries in error. In both, of the entries with one id all but the first to
come are blamed. -/
theorem resolve_addAll_perm (h : es.Perm es') :
    (empty.addAll es).resolve.AgreesWith (empty.addAll es').resolve ∧
      ∀ d id, (d, id) ∈ es.map Entry.key →
        (empty.addAll es).resolve.BlamesLater es d id ∧
          (empty.addAll es').resolve.BlamesLater es' d id := by
  have hstatus : (empty.addAll es).resolve.status = (empty.addAll es').resolve.status :=
    status_resolve_addAll_perm h
  have herrors : (empty.addAll es).resolve.hasErrors = (empty.addAll es').resolve.hasErrors :=
    hasErrors_eq_of_status_eq hstatus
  have hcross (es : List Entry) : (empty.addAll es).crossReferenceErrors = [] :=
    crossReferenceErrors_addAll empty es
  -- Resolving appends the references that lead nowhere, and leaves the rest of a report as it is.
  rw [resolve_eq, resolve_eq] at hstatus herrors ⊢
  refine ⟨{
    status := hstatus
    hasErrors := herrors
    warningCount := countP_entries_addAll_perm (fun _ _ => rfl) h
    declares := declares_addAll_perm h
    tissueMaterials := tissueMaterials_addAll_perm h
    crossReferenceErrors := ?_
    summary := summary_addAll_perm h }, fun d id hid => ⟨?_, ?_⟩⟩
  · rw [hcross, hcross, List.nil_append, List.nil_append]
    exact unresolved_addAll_perm h
  · exact blamesLater_addAll hid
  · exact blamesLater_addAll ((h.map Entry.key).mem_iff.mp hid)

/-- Two caps of one id, the first of them in error already, and the template of a scalp. -/
def capEntries : List Entry := [
  { dataset := .armourPieces, id := "cap", references := [⟨.record .armourMaterials, "felt"⟩],
    errors := ["No coverage entries defined"] },
  { dataset := .tissueTemplates, id := "scalp", references := [⟨.tissueMaterial, "skin"⟩] },
  { dataset := .armourPieces, id := "cap", warnings := ["Coverage entry 0 has no part_tags"] }]

/-- The other way round one cap gets both errors, so that one entry less is in error. -/
theorem resolve_addAll_perm_capEntries :
    capEntries.Perm capEntries.reverse ∧
      (empty.addAll capEntries).resolve.errorCount = 3 ∧
      (empty.addAll capEntries.reverse).resolve.errorCount = 2 ∧
      (empty.addAll capEntries).resolve.AgreesWith (empty.addAll capEntries.reverse).resolve ∧
      (empty.addAll capEntries).resolve.BlamesLater capEntries .armourPieces "cap" ∧
      (empty.addAll capEntries.reverse).resolve.BlamesLater capEntries.reverse
        .armourPieces "cap" := by
  have hperm : capEntries.Perm capEntries.reverse := (List.reverse_perm capEntries).symm
  obtain ⟨hagrees, hblamed⟩ := resolve_addAll_perm hperm
  obtain ⟨hlater, hlater'⟩ := hblamed .armourPieces "cap" (by decide)
  exact ⟨hperm, by decide +kernel, by decide +kernel, hagrees, hlater, hlater'⟩

end Report

end CombatContent.Audit
