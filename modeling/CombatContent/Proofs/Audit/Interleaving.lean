import CombatContent.Audit.Markdown
import CombatContent.Proofs.Audit.OneDataset
import CombatContent.Proofs.Audit.Summary

/-!
# Reports of interleaved entries

The Markdown of a report looks at each dataset on its own. A section lists the entries of one
dataset, a row of the summary counts them, and the verdict rests on counts that may be taken dataset
by dataset. So entries of different datasets may come in any order among one another. The order
inside a dataset does matter: it is the order of the section, and it tells which of two entries of
one id is in error.

## Main definitions

* `SameInEachDataset`: entries that are only interleaved in different ways.

## Main results

* `Report.entries_perm`: the entries of a report, dataset by dataset.
* `Report.markdown_congr`: reports that hold the same of every dataset.
* `Report.markdown_interleaving`: runs of interleaved entries.
-/

namespace CombatContent.Audit

/-- Entries of each dataset come in the same order, however those of different datasets are
interleaved. -/
def SameInEachDataset (es es' : List Entry) : Prop :=
  ∀ d, (es.filter fun e => e.dataset = d) = es'.filter fun e => e.dataset = d

namespace Report

variable {r r' : Report} {es es' : List Entry}

/-! ### Counting dataset by dataset -/

/-- Entries of different datasets, put together, are the entries of any of these datasets. -/
theorem flatMap_filter_perm {ds : List Dataset} (hds : ds.Nodup) (es : List Entry) :
    (ds.flatMap fun d => es.filter fun e => e.dataset = d).Perm
      (es.filter fun e => e.dataset ∈ ds) := by
  induction ds with
  | nil => simp
  | cons d ds ih =>
    obtain ⟨hd, hds⟩ := List.nodup_cons.mp hds
    have hown : (es.filter fun e => e.dataset ∈ d :: ds).filter (fun e => e.dataset = d) =
        es.filter fun e => e.dataset = d := by
      rw [List.filter_filter]
      exact List.filter_congr fun e _ => by simp +contextual
    have hother : (es.filter fun e => e.dataset ∈ d :: ds).filter (fun e => !(e.dataset = d)) =
        es.filter fun e => e.dataset ∈ ds := by
      rw [List.filter_filter]
      refine List.filter_congr fun e _ => ?_
      have hne (hmem : e.dataset ∈ ds) : e.dataset ≠ d := fun heq => hd (heq ▸ hmem)
      by_cases hmem : e.dataset ∈ ds <;> simp [hmem, hne]
    have hsplit := List.filter_append_perm (fun e => decide (e.dataset = d))
      (es.filter fun e => e.dataset ∈ d :: ds)
    rw [hown, hother] at hsplit
    rw [List.flatMap_cons]
    exact ((ih hds).append_left _).trans hsplit

/-- The entries of a report, dataset by dataset. -/
theorem entries_perm (r : Report) : (Dataset.all.flatMap r.entriesOf).Perm r.entries := by
  have hall : (r.entries.filter fun e => e.dataset ∈ Dataset.all) = r.entries :=
    List.filter_eq_self.mpr fun e _ => decide_eq_true (Dataset.mem_all e.dataset)
  have hperm := flatMap_filter_perm (by decide : Dataset.all.Nodup) r.entries
  rwa [hall] at hperm

theorem mem_map_dataset_iff {d : Dataset} :
    d ∈ r.entries.map Entry.dataset ↔ r.entriesOf d ≠ [] := by
  rw [entriesOf, ne_eq, List.filter_eq_nil_iff]
  simp

/-! ### Reports that hold the same of every dataset -/

/-- What entries are counted for may be counted dataset by dataset. -/
theorem countP_entries_congr (hentries : ∀ d, r.entriesOf d = r'.entriesOf d) (p : Entry → Bool) :
    r.entries.countP p = r'.entries.countP p := by
  have hsame : r.entriesOf = r'.entriesOf := funext hentries
  rw [← r.entries_perm.countP_eq, ← r'.entries_perm.countP_eq, hsame]

theorem errorCount_congr (hentries : ∀ d, r.entriesOf d = r'.entriesOf d)
    (hcross : r.crossReferenceErrors = r'.crossReferenceErrors) : r.errorCount = r'.errorCount := by
  rw [errorCount, errorCount, countP_entries_congr hentries, hcross]

theorem warningCount_congr (hentries : ∀ d, r.entriesOf d = r'.entriesOf d) :
    r.warningCount = r'.warningCount :=
  countP_entries_congr hentries _

theorem status_congr (hentries : ∀ d, r.entriesOf d = r'.entriesOf d)
    (hcross : r.crossReferenceErrors = r'.crossReferenceErrors) : r.status = r'.status := by
  rw [status, status, hasErrors, hasErrors, errorCount_congr hentries hcross,
    warningCount_congr hentries]

theorem summary_congr (hentries : ∀ d, r.entriesOf d = r'.entriesOf d) :
    r.summary = r'.summary := by
  have hdatasets : datasetsOf r.entries Dataset.all = datasetsOf r'.entries Dataset.all :=
    List.filter_congr fun d _ => by simp only [mem_map_dataset_iff, hentries]
  have hrows : rowOf r.entries = rowOf r'.entries := by
    funext d
    have hown : (r.entries.filter fun e => e.dataset = d) =
        r'.entries.filter fun e => e.dataset = d :=
      hentries d
    rw [rowOf, rowOf, hown]
  rw [summary_eq, summary_eq, hdatasets, hrows]

/-- Reports that hold the same entries of every dataset, and the same errors about references, have
the same Markdown. -/
theorem markdown_congr (hentries : ∀ d, r.entriesOf d = r'.entriesOf d)
    (hcross : r.crossReferenceErrors = r'.crossReferenceErrors) : markdown r = markdown r' := by
  have hstatus : statusLine r = statusLine r' := by
    rw [statusLine, statusLine, status_congr hentries hcross, errorCount_congr hentries hcross,
      warningCount_congr hentries]
  have hsummary : summaryLines r = summaryLines r' := by
    rw [summaryLines, summaryLines, summary_congr hentries]
  have hreferences : crossReferenceLines r = crossReferenceLines r' := by
    rw [crossReferenceLines, crossReferenceLines, hcross]
  rw [markdown, markdown, markdownLines, markdownLines, hsummary, hstatus, hreferences]
  simp only [hentries]

/-! ### Runs -/

/-- Entries of different datasets may be interleaved in any way, and in particular two neighbours of
different datasets may come the other way round: with the same errors about references taken in
after them, the Markdown of the report is the same. -/
theorem markdown_interleaving :
    (∀ (r : Report) (es es' : List Entry) (messages : List String), SameInEachDataset es es' →
      markdown (messages.foldl addCrossReferenceError (r.addAll es)) =
        markdown (messages.foldl addCrossReferenceError (r.addAll es'))) ∧
    ∀ (r : Report) (e e' : Entry) (later : List Entry) (messages : List String),
      e.dataset ≠ e'.dataset →
      markdown (messages.foldl addCrossReferenceError (((r.add e).add e').addAll later)) =
        markdown (messages.foldl addCrossReferenceError (((r.add e').add e).addAll later)) := by
  have hruns (r : Report) (es es' : List Entry) (messages : List String)
      (h : SameInEachDataset es es') :
      markdown (messages.foldl addCrossReferenceError (r.addAll es)) =
        markdown (messages.foldl addCrossReferenceError (r.addAll es')) := by
    rw [foldl_addCrossReferenceError, foldl_addCrossReferenceError]
    refine markdown_congr (fun d => entriesOf_addAll_congr (h d)) ?_
    rw [crossReferenceErrors_addAll, crossReferenceErrors_addAll]
  refine ⟨hruns, fun r e e' later messages hne => ?_⟩
  have hswapped : SameInEachDataset (e :: e' :: later) (e' :: e :: later) := by
    intro d
    by_cases he : e.dataset = d
    · have he' : e'.dataset ≠ d := fun heq => hne (he.trans heq.symm)
      simp [he, he']
    · simp [List.filter_cons, he]
  exact hruns r (e :: e' :: later) (e' :: e :: later) messages hswapped

/-- Two boots of one id, with a technique and a body plan between them. -/
def bootEntries : List Entry := [
  { dataset := .armourPieces, id := "boot" },
  { dataset := .techniques, id := "kick", warnings := ["No axis_bias defined"] },
  { dataset := .armourPieces, id := "boot", errors := ["No coverage entries defined"] },
  { dataset := .bodyPlans, id := "biped" }]

/-- The same with the boots at the end. -/
def bootEntriesLast : List Entry := [
  { dataset := .bodyPlans, id := "biped" },
  { dataset := .techniques, id := "kick", warnings := ["No axis_bias defined"] },
  { dataset := .armourPieces, id := "boot" },
  { dataset := .armourPieces, id := "boot", errors := ["No coverage entries defined"] }]

theorem markdown_interleaving_bootEntries :
    SameInEachDataset bootEntries bootEntriesLast ∧
      (empty.addAll bootEntries).entries.map Entry.dataset ≠
        (empty.addAll bootEntriesLast).entries.map Entry.dataset ∧
      markdown (["Kick"].foldl addCrossReferenceError (empty.addAll bootEntries)) =
        markdown (["Kick"].foldl addCrossReferenceError (empty.addAll bootEntriesLast)) := by
  have hsame : SameInEachDataset bootEntries bootEntriesLast := by
    intro d
    cases d <;> rfl
  exact ⟨hsame, by decide, markdown_interleaving.1 empty _ _ ["Kick"] hsame⟩

end Report

end CombatContent.Audit
