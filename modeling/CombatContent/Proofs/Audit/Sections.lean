import CombatContent.Audit.Markdown
import CombatContent.Proofs.Audit.OneDataset

/-!
# Sections of a report

The Markdown of a report gives each dataset with entries a section under its title, in display
order. A section is written from the entries of its dataset alone, and these come from the drafts of
that dataset alone. So documents that have the same drafts of a dataset have the same entries and
the same section of it, whatever else they hold.

## Main definitions

* `sectionText`, `IsSection`: the section of a dataset, and where it stands in the Markdown.

## Main results

* `isSection_sectionText`: the Markdown of a report has a section for each dataset.
* `entriesOf_run_congr`: entries of a dataset come from its drafts.
* `same_section_of_same_drafts`: documents with the same drafts of a dataset.
-/

namespace CombatContent

namespace Text

theorem unlines_flatMap {α : Type} (f : α → List String) (xs : List α) :
    unlines (xs.flatMap f) = String.join (xs.map fun x => unlines (f x)) := by
  induction xs with
  | nil => rfl
  | cons x xs ih => rw [List.flatMap_cons, unlines_append, ih, List.map_cons, String.join_cons]

end Text

/-- The datasets that come after in display order. -/
def Dataset.after (d : Dataset) : List Dataset := all.drop (d.position + 1)

theorem Dataset.before_append_after (d : Dataset) : d.before ++ d :: d.after = all := by
  cases d <;> rfl

namespace Audit

/-! ### Sections -/

/-- What stands in front of all sections: the summary, the verdict and the errors about
references. -/
def openingText (r : Report) : String :=
  Text.unlines
    (["# Data Audit Report", ""] ++ summaryLines r ++ [statusLine r, ""] ++ crossReferenceLines r)

/-- The text of a dataset's section. -/
def sectionText (r : Report) (d : Dataset) : String :=
  Text.unlines (sectionLines d (r.entriesOf d))

/-- The part of a report's Markdown that is the section of a dataset: it stands between the sections
of the datasets before it and of those after it, under the title of the dataset, and is empty if the
dataset has no entries. -/
structure IsSection (r : Report) (d : Dataset) (text : String) : Prop where
  stands : markdown r = openingText r ++ String.join (d.before.map (sectionText r)) ++ text ++
    String.join (d.after.map (sectionText r))
  opens : r.entriesOf d ≠ [] → ∃ rest, text = "## " ++ d.title ++ "\n" ++ rest
  empty : r.entriesOf d = [] → text = ""

theorem markdown_eq (r : Report) :
    markdown r = openingText r ++ String.join (Dataset.all.map (sectionText r)) := by
  rw [markdown, markdownLines, Text.unlines_append, Text.unlines_flatMap]
  rfl

theorem sectionText_of_ne_nil {r : Report} {d : Dataset} (h : r.entriesOf d ≠ []) :
    ∃ rest, sectionText r d = "## " ++ d.title ++ "\n" ++ rest := by
  have hempty : (r.entriesOf d).isEmpty = false := by rwa [List.isEmpty_eq_false_iff]
  rw [sectionText, sectionLines, hempty, if_neg Bool.false_ne_true, List.append_assoc,
    List.cons_append, Text.unlines_cons]
  exact ⟨_, rfl⟩

/-- The Markdown of a report has a section for each dataset. -/
theorem isSection_sectionText (r : Report) (d : Dataset) : IsSection r d (sectionText r d) where
  stands := by
    rw [markdown_eq, ← d.before_append_after, List.map_append, List.map_cons, String.join_append,
      String.join_cons]
    simp only [String.append_assoc]
  opens := sectionText_of_ne_nil
  empty h := by
    rw [sectionText, h]
    rfl

/-! ### Documents with the same drafts of a dataset -/

variable {document document' : Tree} {d : Dataset}

theorem malformedOf_congr (h : Draft.ofDocument document d = Draft.ofDocument document' d) :
    (Content.ofDocument document).malformedOf d = (Content.ofDocument document').malformedOf d := by
  rw [Content.malformedOf_ofDocument, Content.malformedOf_ofDocument, Content.malformedIn_eq,
    Content.malformedIn_eq, h]

theorem typedEntries_congr (h : Draft.ofDocument document d = Draft.ofDocument document' d) :
    typedEntries (Content.ofDocument document) d =
      typedEntries (Content.ofDocument document') d := by
  cases d <;> simp only [typedEntries, Content.ofDocument, h]

/-- The entries of a dataset come from its drafts. -/
theorem entriesOf_run_congr (h : Draft.ofDocument document d = Draft.ofDocument document' d) :
    (run (Content.ofDocument document)).entriesOf d =
      (run (Content.ofDocument document')).entriesOf d := by
  rw [entriesOf_run, entriesOf_run]
  apply Report.entriesOf_addAll_congr
  rw [filter_entries, filter_entries, typedEntries_congr h, malformedOf_congr h]

/-- Documents with the same drafts of a dataset have the same entries of it in their audits, and the
same section of it in the Markdown of these, whatever else the documents hold. -/
theorem same_section_of_same_drafts
    (h : Draft.ofDocument document d = Draft.ofDocument document' d) :
    let r := run (Content.ofDocument document)
    let r' := run (Content.ofDocument document')
    r.entriesOf d = r'.entriesOf d ∧ ∃ text, IsSection r d text ∧ IsSection r' d text := by
  intro r r'
  have hentries : r.entriesOf d = r'.entriesOf d := entriesOf_run_congr h
  have hsection : IsSection r' d (sectionText r d) := by
    rw [sectionText, hentries]
    exact isSection_sectionText r' d
  exact ⟨hentries, sectionText r d, isSection_sectionText r d, hsection⟩

/-- Two techniques of one id, beside a weapon that cannot be typed. -/
def feintDocument : Tree := .map [
  ("weapons", .map [("feint", .map [("name", .text "Club"), ("weight_kg", .text "heavy")])]),
  ("techniques", .map [("feint", .map [("name", .text "Feint")]),
    ("second", .map [("id", .text "feint"), ("name", .text "Second Feint")])])]

/-- The same techniques, beside a body plan of their id and a species that cannot be typed. -/
def feintPlanDocument : Tree := .map [
  ("techniques", .map [("feint", .map [("name", .text "Feint")]),
    ("second", .map [("id", .text "feint"), ("name", .text "Second Feint")])]),
  ("body_plans", .map [("feint", .map [("parts", .map [])])]),
  ("species", .map [("feint", .map [("base_blood", .list [])])])]

theorem same_section_feintDocument :
    let r := run (Content.ofDocument feintDocument)
    let r' := run (Content.ofDocument feintPlanDocument)
    (r.entriesOf .techniques).map Entry.errors = [[], ["duplicate id 'feint' in techniques"]] ∧
      r.entriesOf .techniques = r'.entriesOf .techniques ∧
      ∃ text, IsSection r .techniques text ∧ IsSection r' .techniques text := by
  intro r r'
  have hdrafts : Draft.ofDocument feintDocument .techniques =
      Draft.ofDocument feintPlanDocument .techniques := rfl
  have hmessage : Report.duplicateMessage .techniques "feint" =
      "duplicate id 'feint' in techniques" := by decide +kernel
  have herrors : (r.entriesOf .techniques).map Entry.errors =
      [[], [Report.duplicateMessage .techniques "feint"]] := by decide +kernel
  rw [hmessage] at herrors
  exact ⟨herrors, same_section_of_same_drafts hdrafts⟩

end Audit

end CombatContent
