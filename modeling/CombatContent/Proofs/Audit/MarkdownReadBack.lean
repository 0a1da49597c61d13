import CombatContent.Proofs.Audit.Interleaving
import CombatContent.Proofs.Audit.MarkdownLines
import Mathlib.Data.List.Perm.Basic

/-!
# Findings read back from Markdown

The lines of a report show where each part of it ends. An empty line closes the summary, the errors
about references, the messages of an entry and a table. A heading opens a section, and its level
tells a section from what is in it. So the lines tell the summary, the verdict, the errors about
references, and the findings of every entry that has any, under the dataset and the id of the entry.

## Main definitions

* `Entry.findings`: the id of an entry, its errors and its warnings.
* `Report.issuesOf`, `Report.cleanOf`: the entries of a dataset with findings, and those without.
* `headingLevel`: the level of the heading that a line is.
* `datasetSection`: the section of a dataset, by its entries with findings and those without.
* `FollowsIssues`, `FollowsSection`, `OpensOther`: what stands behind the parts of a section.
* `Report.ShowsEachEntryOnce`: what the Markdown of a report shows of its entries.

## Main results

* `issueLines_append_inj`, `datasetSection_append_inj`: an entry with findings, and a section, read
  in front of what follows.
* `findings_of_markdownLines`: what the lines of a report tell.
* `Report.findings_of_markdown`: what the Markdown of a report tells, and what is in it.
-/

namespace CombatContent.Audit

open Text

variable {r r' : Report} {e e' : Entry} {d : Dataset} {us vs : List String}
  {issues issues' clean clean' : List Entry}

/-- What is found about an entry, under its id. -/
def Entry.findings (e : Entry) : String × List String × List String := (e.id, e.errors, e.warnings)

/-- The entries of a dataset with findings, in order. -/
def Report.issuesOf (r : Report) (d : Dataset) : List Entry :=
  (r.entriesOf d).filter fun e => !e.isClean

/-- The clean entries of a dataset, in order. -/
def Report.cleanOf (r : Report) (d : Dataset) : List Entry := (r.entriesOf d).filter Entry.isClean

/-! ### Opening lines -/

theorem prefix_injective (mark : String) : Function.Injective (mark ++ ·) :=
  fun _ _ h => (String.append_right_inj mark).mp h

theorem blank_notMem_toDigits (n : Nat) : ' ' ∉ Nat.toDigits 10 n :=
  fun hmem => absurd (Decimal.isNumeralChar_of_mem_toDigits n _ hmem) (by decide)

/-- Rows of a table have the same cells if there are as many of them and none has a blank in it. -/
theorem eq_of_tableRow_eq {cells cells' : List String} (hlength : cells.length = cells'.length)
    (hcells : ∀ cell ∈ cells, ' ' ∉ cell.toList) (hcells' : ∀ cell ∈ cells', ' ' ∉ cell.toList)
    (h : tableRow cells = tableRow cells') : cells = cells' := by
  rw [tableRow, tableRow, String.append_assoc, String.append_assoc] at h
  have hchars := congrArg String.toList (prefix_injective "| " h)
  rw [String.toList_append, String.toList_append, String.toList_intercalate,
    String.toList_intercalate] at hchars
  have hparts := intercalate_append_inj (by simpa using hlength) (List.forall_mem_map.mpr hcells)
    (List.forall_mem_map.mpr hcells') hchars
  exact Function.Injective.list_map (fun _ _ => String.toList_injective) hparts

theorem tableRow_ne_empty (cells : List String) : tableRow cells ≠ "" := by
  intro h
  simpa [tableRow] using congrArg String.toList h

/-- The cells of a row of the summary. -/
def summaryCells (row : SummaryRow) : List String :=
  [row.dataset.key, toString row.total, toString row.withWarnings, toString row.withErrors]

/-- A row of the summary tells its counts. -/
theorem summaryCells_injective : Function.Injective summaryCells := by
  intro a b h
  simp only [summaryCells, List.cons.injEq, Nat.toString_eq_repr,
    Decimal.nat_repr_injective.eq_iff, and_true] at h
  obtain ⟨hkey, htotal, hwarnings, herrors⟩ := h
  have hdataset : some a.dataset = some b.dataset := by
    rw [← Dataset.ofKey?_key, ← Dataset.ofKey?_key, hkey]
  cases a
  cases b
  rw [SummaryRow.mk.injEq]
  exact ⟨Option.some.inj hdataset, htotal, hwarnings, herrors⟩

theorem summaryRow_injective : Function.Injective (tableRow ∘ summaryCells) := by
  have hblank (row : SummaryRow) : ∀ cell ∈ summaryCells row, ' ' ∉ cell.toList := by
    have hkey : ' ' ∉ row.dataset.key.toList := by cases row.dataset <;> decide
    simp [summaryCells, hkey, blank_notMem_toDigits]
  exact fun a b h => summaryCells_injective (eq_of_tableRow_eq rfl (hblank a) (hblank b) h)

/-- How the line of a verdict begins, up to where the verdicts differ. -/
def statusMark : Status → String
  | .failed => "**STATUS: FAILED*"
  | .passedWithWarnings => "**STATUS: PASSED "
  | .passed => "**STATUS: PASSED*"

theorem exists_statusLine_eq (r : Report) : ∃ rest, statusLine r = statusMark r.status ++ rest := by
  have hfailed : "**STATUS: FAILED** - " = "**STATUS: FAILED*" ++ "* - " := by decide
  have hwarnings : "**STATUS: PASSED with warnings** - " =
      "**STATUS: PASSED " ++ "with warnings** - " := by decide
  have hpassed : "**STATUS: PASSED** - All validations passed" =
      "**STATUS: PASSED*" ++ "* - All validations passed" := by decide
  rw [statusLine]
  cases r.status with
  | failed =>
    simp only [hfailed, String.append_assoc]
    exact ⟨_, rfl⟩
  | passedWithWarnings =>
    simp only [hwarnings, String.append_assoc]
    exact ⟨_, rfl⟩
  | passed => exact ⟨_, hpassed⟩

/-- The line of the verdict tells it. -/
theorem status_eq_of_statusLine_eq (h : statusLine r = statusLine r') : r.status = r'.status := by
  obtain ⟨rest, hrest⟩ := exists_statusLine_eq r
  obtain ⟨rest', hrest'⟩ := exists_statusLine_eq r'
  rw [hrest, hrest'] at h
  have hlength (s : Status) : (statusMark s).toList.length = 17 := by cases s <;> decide
  have hinj (s s' : Status) : (statusMark s).toList = (statusMark s').toList → s = s' := by
    cases s <;> cases s' <;> decide
  have hchars := congrArg String.toList h
  rw [String.toList_append, String.toList_append] at hchars
  exact hinj _ _ (List.append_inj hchars ((hlength _).trans (hlength _).symm)).1

/-- Messages are read up to the empty line behind them. -/
theorem messages_append_inj {mark : String} (hmark : mark ≠ "") {ms ms' : List String}
    (h : ms.map (mark ++ ·) ++ "" :: us = ms'.map (mark ++ ·) ++ "" :: vs) :
    ms = ms' ∧ us = vs := by
  have hempty {ls : List String} : ∀ line ∈ ("" :: ls).head?, line ∉ Set.range (mark ++ ·) := by
    rintro line ⟨rfl⟩ ⟨m, hm⟩
    exact hmark (String.append_eq_empty_iff.mp hm).1
  obtain ⟨rfl, hrest⟩ := map_append_inj (prefix_injective mark) hempty hempty h
  exact ⟨rfl, (List.cons.inj hrest).2⟩

theorem crossReferenceLines_append_inj (hus : "## Cross-Reference Errors" ∉ us.head?)
    (hvs : "## Cross-Reference Errors" ∉ vs.head?)
    (h : crossReferenceLines r ++ us = crossReferenceLines r' ++ vs) :
    r.crossReferenceErrors = r'.crossReferenceErrors ∧ us = vs := by
  obtain ⟨hr, hr', rfl⟩ | ⟨-, -, hrest⟩ := optional_append_inj hus hvs h
  · exact ⟨(List.isEmpty_iff.mp hr).trans (List.isEmpty_iff.mp hr').symm, rfl⟩
  · refine messages_append_inj (by decide : "- " ≠ "") ?_
    simpa using hrest

/-! ### Headings -/

/-- The level of the heading that a line is; none is of level zero. -/
def headingLevel (line : String) : Nat := (line.toList.takeWhile (· == '#')).length

/-- What stands behind the entries with findings: the clean ones, the next section, or nothing. -/
def FollowsIssues (ls : List String) : Prop :=
  ∀ line ∈ ls.head?, line = "### Valid Entries" ∨ headingLevel line = 2

/-- What stands behind a section: the next one, or nothing. -/
def FollowsSection (ls : List String) : Prop := ∀ line ∈ ls.head?, headingLevel line = 2

/-- What stands behind the section of a dataset: that of another dataset, or nothing. -/
def OpensOther (d : Dataset) (ls : List String) : Prop :=
  ∀ line ∈ ls.head?, ∃ d' ≠ d, line = "## " ++ d'.title

theorem headingLevel_issue (id : String) : headingLevel ("#### `" ++ id ++ "`") = 4 := by
  simp [headingLevel]

theorem headingLevel_title (d : Dataset) : headingLevel ("## " ++ d.title) = 2 := by
  cases d <;> rfl

theorem title_injective : Function.Injective fun d : Dataset => "## " ++ d.title := by
  intro d d'
  cases d <;> cases d' <;> decide

theorem OpensOther.followsSection (h : OpensOther d us) : FollowsSection us := by
  intro line hline
  obtain ⟨d', -, rfl⟩ := h line hline
  exact headingLevel_title d'

theorem OpensOther.title_notMem (h : OpensOther d us) : "## " ++ d.title ∉ us.head? := by
  intro hmem
  obtain ⟨d', hne, heq⟩ := h _ hmem
  exact hne (title_injective heq.symm)

/-! ### Entries with findings -/

theorem fieldLines_append_inj (hus : "Fields:" ∉ us.head?) (hvs : "Fields:" ∉ vs.head?)
    (h : fieldLines e ++ us = fieldLines e' ++ vs) : us = vs := by
  -- The lines of the fields are indented, and so none of them closes the block.
  have hfence (e : Entry) : "```" ∉ e.fields.map fun f => "  " ++ f.1 ++ ": " ++ f.2.display := by
    intro hmem
    obtain ⟨f, -, hf⟩ := List.mem_map.mp hmem
    simpa using congrArg String.toList hf
  obtain ⟨-, -, heq⟩ | ⟨-, -, hrest⟩ := optional_append_inj hus hvs h
  · exact heq
  · have hfields :
        (e.fields.map fun f => "  " ++ f.1 ++ ": " ++ f.2.display) ++ "```" :: "" :: us =
          (e'.fields.map fun f => "  " ++ f.1 ++ ": " ++ f.2.display) ++ "```" :: "" :: vs := by
      simpa using hrest
    exact (List.cons.inj (append_cons_inj (hfence e) (hfence e') hfields).2).2

/-- The lines of an entry with findings tell the findings and where what follows begins. -/
theorem issueLines_append_inj (hus : "Fields:" ∉ us.head?) (hvs : "Fields:" ∉ vs.head?)
    (h : issueLines e ++ us = issueLines e' ++ vs) : e.findings = e'.findings ∧ us = vs := by
  have hwarning (ms : List String) (rest : List String) :
      ∀ line ∈ (ms.map ("- WARNING: " ++ ·) ++ "" :: rest).head?,
        line ∉ Set.range ("- **ERROR**: " ++ ·) := by
    rintro line hline ⟨m, rfl⟩
    cases ms with
    | nil => simpa using congrArg String.toList (Option.some.inj hline)
    | cons w ms => simpa using congrArg String.toList (Option.some.inj hline)
  have hlines (e : Entry) (us : List String) : issueLines e ++ us =
      ("#### `" ++ (e.id ++ "`")) :: "" :: (e.errors.map ("- **ERROR**: " ++ ·) ++
        (e.warnings.map ("- WARNING: " ++ ·) ++ "" :: (fieldLines e ++ us))) := by
    simp [issueLines, String.append_assoc]
  rw [hlines, hlines] at h
  obtain ⟨hid, h⟩ := List.cons.inj h
  obtain ⟨herrors, h⟩ := map_append_inj (prefix_injective _) (hwarning _ _) (hwarning _ _)
    (List.cons.inj h).2
  obtain ⟨hwarnings, h⟩ := messages_append_inj (by decide) h
  have hid : e.id = e'.id := (String.append_left_inj _).mp (prefix_injective _ hid)
  exact ⟨by rw [Entry.findings, Entry.findings, hid, herrors, hwarnings],
    fieldLines_append_inj hus hvs h⟩

/-- Behind an entry with findings no block of fields begins. -/
theorem FollowsIssues.fields_notMem (h : FollowsIssues us) :
    "Fields:" ∉ (issues.flatMap issueLines ++ us).head? := by
  intro hmem
  cases issues with
  | nil => exact absurd (h _ hmem) (by decide)
  | cons e issues =>
    have hlevel := headingLevel_issue e.id
    rw [Option.some.inj hmem] at hlevel
    exact absurd hlevel (by decide)

/-- What stands behind the entries with findings is not one of them. -/
theorem FollowsIssues.ne_issueLines_append (h : FollowsIssues us) (e : Entry) :
    us ≠ issueLines e ++ vs := by
  rintro rfl
  obtain heq | hlevel := h _ rfl
  · have hissue := headingLevel_issue e.id
    rw [heq] at hissue
    exact absurd hissue (by decide)
  · rw [headingLevel_issue] at hlevel
    exact absurd hlevel (by decide)

/-- The lines of entries with findings tell the findings of all of them. -/
theorem issues_append_inj (hus : FollowsIssues us) (hvs : FollowsIssues vs)
    (h : issues.flatMap issueLines ++ us = issues'.flatMap issueLines ++ vs) :
    issues.map Entry.findings = issues'.map Entry.findings ∧ us = vs := by
  induction issues generalizing issues' with
  | nil =>
    cases issues' with
    | nil => exact ⟨rfl, h⟩
    | cons e' issues' =>
      rw [List.flatMap_cons, List.append_assoc] at h
      exact absurd h (hus.ne_issueLines_append e')
  | cons e issues ih =>
    rw [List.flatMap_cons, List.append_assoc] at h
    cases issues' with
    | nil => exact absurd h.symm (hvs.ne_issueLines_append e)
    | cons e' issues' =>
      rw [List.flatMap_cons, List.append_assoc] at h
      obtain ⟨hfindings, hrest⟩ := issueLines_append_inj hus.fields_notMem hvs.fields_notMem h
      obtain ⟨hothers, rfl⟩ := ih hrest
      exact ⟨by rw [List.map_cons, List.map_cons, hfindings, hothers], rfl⟩

/-! ### Sections -/

/-- What stands under the heading of the entries with findings. -/
def issueBlock (issues : List Entry) : List String :=
  if issues.isEmpty then [] else "### Issues" :: "" :: issues.flatMap issueLines

/-- What stands under the heading of the clean entries. -/
def cleanBlock (d : Dataset) (clean : List Entry) : List String :=
  if clean.isEmpty then [] else "### Valid Entries" :: "" :: (cleanTable d clean ++ [""])

/-- The section of a dataset, by its entries with findings and its clean entries. -/
def datasetSection (d : Dataset) (issues clean : List Entry) : List String :=
  if issues.isEmpty && clean.isEmpty then []
  else ("## " ++ d.title) :: "" :: (issueBlock issues ++ cleanBlock d clean)

theorem empty_notMem_cleanTable (d : Dataset) (clean : List Entry) : "" ∉ cleanTable d clean := by
  have hhead : "" ∉ cleanHead d := by cases d <;> decide
  have hrows : "" ∉ clean.map fun e => tableRow (cleanCells e) := by
    intro hmem
    obtain ⟨e, -, he⟩ := List.mem_map.mp hmem
    exact tableRow_ne_empty _ he
  have hcount : "" ∉ ["_" ++ toString clean.length ++ " entries_"] := by
    intro hmem
    simpa using congrArg String.toList (List.mem_singleton.mp hmem)
  cases d with
  | species | combatTests => exact hcount
  | _ => exact List.not_mem_append hhead hrows

/-- A table ends at the empty line behind it. -/
theorem cleanBlock_append_inj (hus : FollowsSection us) (hvs : FollowsSection vs)
    (h : cleanBlock d clean ++ us = cleanBlock d clean' ++ vs) : us = vs := by
  have hhead {us : List String} (hus : FollowsSection us) : "### Valid Entries" ∉ us.head? :=
    fun hmem => absurd (hus _ hmem) (by decide)
  obtain ⟨-, -, heq⟩ | ⟨-, -, hrest⟩ := optional_append_inj (hhead hus) (hhead hvs) h
  · exact heq
  · have htables : cleanTable d clean ++ "" :: us = cleanTable d clean' ++ "" :: vs := by
      simpa using hrest
    exact (append_cons_inj (empty_notMem_cleanTable d clean) (empty_notMem_cleanTable d clean')
      htables).2

theorem FollowsSection.cleanBlock_append (h : FollowsSection us) (d : Dataset)
    (clean : List Entry) : FollowsIssues (cleanBlock d clean ++ us) := by
  rw [cleanBlock]
  split
  · exact fun line hline => .inr (h line hline)
  · rintro line ⟨rfl⟩
    exact .inl rfl

/-- The entries with findings end where the heading of the clean ones stands, or the next section
begins. -/
theorem issueBlock_append_inj (hus : FollowsIssues us) (hvs : FollowsIssues vs)
    (h : issueBlock issues ++ us = issueBlock issues' ++ vs) :
    issues.map Entry.findings = issues'.map Entry.findings ∧ us = vs := by
  have hhead {us : List String} (hus : FollowsIssues us) : "### Issues" ∉ us.head? :=
    fun hmem => absurd (hus _ hmem) (by decide)
  obtain ⟨hempty, hempty', heq⟩ | ⟨-, -, hrest⟩ := optional_append_inj (hhead hus) (hhead hvs) h
  · exact ⟨by rw [List.isEmpty_iff.mp hempty, List.isEmpty_iff.mp hempty'], heq⟩
  · exact issues_append_inj hus hvs (List.cons.inj hrest).2

/-- A section tells the findings in it and where the next one begins. -/
theorem datasetSection_append_inj (hus : OpensOther d us) (hvs : OpensOther d vs)
    (h : datasetSection d issues clean ++ us = datasetSection d issues' clean' ++ vs) :
    issues.map Entry.findings = issues'.map Entry.findings ∧ us = vs := by
  obtain ⟨hempty, hempty', heq⟩ | ⟨-, -, hrest⟩ :=
    optional_append_inj hus.title_notMem hvs.title_notMem h
  · rw [Bool.and_eq_true, List.isEmpty_iff, List.isEmpty_iff] at hempty hempty'
    exact ⟨by rw [hempty.1, hempty'.1], heq⟩
  · have hblocks : issueBlock issues ++ (cleanBlock d clean ++ us) =
        issueBlock issues' ++ (cleanBlock d clean' ++ vs) := by
      simpa using hrest
    obtain ⟨hfindings, hclean⟩ := issueBlock_append_inj (hus.followsSection.cleanBlock_append d _)
      (hvs.followsSection.cleanBlock_append d _) hblocks
    exact ⟨hfindings, cleanBlock_append_inj hus.followsSection hvs.followsSection hclean⟩

/-- Sections begin with the heading of one of their datasets. -/
theorem head?_sections {ds : List Dataset} {issues clean : Dataset → List Entry} :
    ∀ line ∈ (ds.flatMap fun d => datasetSection d (issues d) (clean d)).head?,
      ∃ d ∈ ds, line = "## " ++ d.title := by
  induction ds with
  | nil => exact fun line hline => absurd hline (by simp)
  | cons d ds ih =>
    rw [List.flatMap_cons, datasetSection]
    split
    · intro line hline
      obtain ⟨d', hd', heq⟩ := ih line hline
      exact ⟨d', List.mem_cons_of_mem _ hd', heq⟩
    · rintro line ⟨rfl⟩
      exact ⟨d, List.mem_cons_self .., rfl⟩

/-- Sections tell the findings of each dataset. -/
theorem sections_inj {ds : List Dataset} (hds : ds.Nodup)
    {issues issues' clean clean' : Dataset → List Entry}
    (h : (ds.flatMap fun d => datasetSection d (issues d) (clean d)) =
      ds.flatMap fun d => datasetSection d (issues' d) (clean' d)) :
    ∀ d ∈ ds, (issues d).map Entry.findings = (issues' d).map Entry.findings := by
  induction ds with
  | nil => exact List.forall_mem_nil _
  | cons d ds ih =>
    obtain ⟨hd, hds⟩ := List.nodup_cons.mp hds
    have hnext {issues clean : Dataset → List Entry} :
        OpensOther d (ds.flatMap fun d => datasetSection d (issues d) (clean d)) := by
      intro line hline
      obtain ⟨d', hd', heq⟩ := head?_sections line hline
      exact ⟨d', fun hsame => hd (hsame ▸ hd'), heq⟩
    rw [List.flatMap_cons, List.flatMap_cons] at h
    obtain ⟨hfirst, hrest⟩ := datasetSection_append_inj hnext hnext h
    exact List.forall_mem_cons.mpr ⟨hfirst, ih hds hrest⟩

/-! ### Reports -/

/-- The lines in front of the sections. -/
def openingLines (r : Report) : List String :=
  ["# Data Audit Report", ""] ++ summaryLines r ++ [statusLine r, ""] ++ crossReferenceLines r

theorem sectionLines_eq (d : Dataset) (es : List Entry) :
    sectionLines d es =
      datasetSection d (es.filter fun e => !e.isClean) (es.filter Entry.isClean) := by
  have hempty : es.isEmpty =
      ((es.filter fun e => !e.isClean).isEmpty && (es.filter Entry.isClean).isEmpty) := by
    cases es with
    | nil => rfl
    | cons e es => cases he : e.isClean <;> simp [he]
  rw [sectionLines, datasetSection, ← hempty]
  simp [issueBlock, cleanBlock]

theorem openingLines_append (r : Report) (rest : List String) :
    openingLines r ++ rest =
      ["# Data Audit Report", "", "## Summary", "",
        "| Dataset | Total | With Warnings | With Errors |",
        "|---------|-------|---------------|-------------|"] ++
      (r.summary.map (tableRow ∘ summaryCells) ++
        "" :: statusLine r :: "" :: (crossReferenceLines r ++ rest)) := by
  simp [openingLines, summaryLines, summaryCells, Function.comp_def]

theorem markdownLines_eq (r : Report) :
    markdownLines r = openingLines r ++
      Dataset.all.flatMap fun d => datasetSection d (r.issuesOf d) (r.cleanOf d) := by
  simp only [markdownLines, openingLines, sectionLines_eq, Report.issuesOf, Report.cleanOf]

/-- The lines of a report tell its summary, its verdict, its errors about references, and the
findings of each dataset. -/
theorem findings_of_markdownLines (h : markdownLines r = markdownLines r') :
    r.summary = r'.summary ∧ r.status = r'.status ∧
      r.crossReferenceErrors = r'.crossReferenceErrors ∧
      ∀ d, (r.issuesOf d).map Entry.findings = (r'.issuesOf d).map Entry.findings := by
  have hempty {ls : List String} :
      ∀ line ∈ ("" :: ls).head?, line ∉ Set.range (tableRow ∘ summaryCells) := by
    rintro line ⟨rfl⟩ ⟨row, hrow⟩
    exact tableRow_ne_empty _ hrow
  have hreferences {issues clean : Dataset → List Entry} : "## Cross-Reference Errors" ∉
      (Dataset.all.flatMap fun d => datasetSection d (issues d) (clean d)).head? := by
    intro hmem
    obtain ⟨d, -, heq⟩ := head?_sections _ hmem
    cases d <;> exact absurd heq (by decide)
  rw [markdownLines_eq, markdownLines_eq, openingLines_append, openingLines_append] at h
  obtain ⟨hsummary, h⟩ := map_append_inj summaryRow_injective hempty hempty
    (List.append_cancel_left h)
  obtain ⟨hstatus, h⟩ := List.cons.inj (List.cons.inj h).2
  obtain ⟨herrors, hsections⟩ := crossReferenceLines_append_inj hreferences hreferences
    (List.cons.inj h).2
  have hfindings := sections_inj (by decide) hsections
  exact ⟨hsummary, status_eq_of_statusLine_eq hstatus, herrors,
    fun d => hfindings d (Dataset.mem_all d)⟩

/-! ### Each entry once -/

/-- What the Markdown of a report shows of its entries. Those with findings are shown one by one,
and the clean ones as rows that begin with their ids, or as one number. -/
structure Report.ShowsEachEntryOnce (r : Report) : Prop where
  layout : markdown r = unlines (openingLines r ++
    Dataset.all.flatMap fun d => datasetSection d (r.issuesOf d) (r.cleanOf d))
  once : (Dataset.all.flatMap fun d => r.issuesOf d ++ r.cleanOf d).Perm r.entries
  issues : ∀ d, ∀ e ∈ r.issuesOf d, e.dataset = d ∧ (e.errors ≠ [] ∨ e.warnings ≠ [])
  clean : ∀ d, ∀ e ∈ r.cleanOf d, e.dataset = d ∧ e.errors = [] ∧ e.warnings = []
  rows : ∀ d ∉ [Dataset.species, .combatTests],
    (cleanTable d (r.cleanOf d) =
      cleanHead d ++ (r.cleanOf d).map fun e => tableRow (cleanCells e)) ∧
    ∀ e ∈ r.cleanOf d, ∃ cells, cleanCells e = e.id :: cells
  counts : ∀ d ∈ [Dataset.species, .combatTests],
    cleanTable d (r.cleanOf d) = ["_" ++ toString (r.cleanOf d).length ++ " entries_"]

theorem issuesOf_append_cleanOf_perm (r : Report) (d : Dataset) :
    (r.issuesOf d ++ r.cleanOf d).Perm (r.entriesOf d) :=
  List.perm_append_comm.trans (List.filter_append_perm Entry.isClean _)

theorem dataset_of_mem_cleanOf (h : e ∈ r.cleanOf d) : e.dataset = d :=
  of_decide_eq_true (List.mem_filter.mp (List.mem_of_mem_filter h)).2

theorem dataset_of_mem_issuesOf (h : e ∈ r.issuesOf d) : e.dataset = d :=
  of_decide_eq_true (List.mem_filter.mp (List.mem_of_mem_filter h)).2

/-- A row begins with the id of its entry. -/
theorem exists_cleanCells_eq (h : e.dataset ∉ [Dataset.species, .combatTests]) :
    ∃ cells, cleanCells e = e.id :: cells := by
  rw [cleanCells]
  cases hd : e.dataset with
  | species | combatTests =>
    rw [hd] at h
    exact absurd (by decide) h
  | _ => exact ⟨_, rfl⟩

theorem showsEachEntryOnce (r : Report) : r.ShowsEachEntryOnce where
  layout := by rw [markdown, markdownLines_eq]
  once :=
    (List.Perm.flatMap_left _ fun d _ => issuesOf_append_cleanOf_perm r d).trans r.entries_perm
  issues d e he := by
    refine ⟨dataset_of_mem_issuesOf he, ?_⟩
    simpa [Entry.isClean, Entry.hasErrors, Entry.hasWarnings] using (List.mem_filter.mp he).2
  clean d e he := by
    refine ⟨dataset_of_mem_cleanOf he, ?_⟩
    simpa [Entry.isClean, Entry.hasErrors, Entry.hasWarnings] using (List.mem_filter.mp he).2
  rows d hd := by
    refine ⟨?_, fun e he => exists_cleanCells_eq (dataset_of_mem_cleanOf he ▸ hd)⟩
    cases d with
    | species | combatTests => exact absurd (by decide) hd
    | _ => rfl
  counts d hd := by
    cases d with
    | species | combatTests => rfl
    | _ => exact absurd hd (by decide)

/-- Reports without line feeds in their texts have the same Markdown only if they have the same
summary, the same verdict, the same errors about references, and in each dataset the same findings
under the same ids, in order. The Markdown of any report shows each of its entries once. -/
theorem Report.findings_of_markdown :
    (∀ r r' : Report, r.FeedFree → r'.FeedFree → markdown r = markdown r' →
      r.summary = r'.summary ∧ r.status = r'.status ∧
        r.crossReferenceErrors = r'.crossReferenceErrors ∧
        ∀ d, (r.issuesOf d).map Entry.findings = (r'.issuesOf d).map Entry.findings) ∧
    ∀ r : Report, r.ShowsEachEntryOnce := by
  refine ⟨fun r r' hr hr' h => findings_of_markdownLines ?_, showsEachEntryOnce⟩
  exact eq_of_unlines_eq (feedFree_markdownLines hr) (feedFree_markdownLines hr') h

/-- Two boots of one id, and a technique with a warning and an error about a reference. -/
def bootReport : Report :=
  (Report.empty.addAll Report.bootEntries).addCrossReferenceError "Technique 'kick' has no boot"

/-- The same with the entries interleaved in another way. -/
def bootReportLast : Report :=
  (Report.empty.addAll Report.bootEntriesLast).addCrossReferenceError
    "Technique 'kick' has no boot"

theorem Report.findings_of_markdown_bootReport :
    (bootReport.FeedFree ∧ bootReportLast.FeedFree ∧
        markdown bootReport = markdown bootReportLast) ∧
      bootReport.summary = bootReportLast.summary ∧ bootReport.status = bootReportLast.status ∧
      bootReport.crossReferenceErrors = bootReportLast.crossReferenceErrors ∧
      ∀ d, (bootReport.issuesOf d).map Entry.findings =
        (bootReportLast.issuesOf d).map Entry.findings := by
  have hfree : bootReport.FeedFree := by decide +kernel
  have hfree' : bootReportLast.FeedFree := by decide +kernel
  have hmarkdown : markdown bootReport = markdown bootReportLast :=
    Report.markdown_congr (fun d => by cases d <;> rfl) rfl
  exact ⟨⟨hfree, hfree', hmarkdown⟩,
    Report.findings_of_markdown.1 bootReport bootReportLast hfree hfree' hmarkdown⟩

end CombatContent.Audit
