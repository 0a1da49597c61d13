import CombatContent.Audit.Markdown
import CombatContent.Proofs.Decimal.Numerals
import CombatContent.Proofs.Text.Parts

/-!
# The lines of a report in Markdown

Numbers are written without line feeds, and so are the words that are the same in all reports. Hence
a line of the Markdown is one line of the text, unless an id, a message, or the name or the value of
a field brings a line feed with it.

## Main definitions

* `Entry.FeedFree`, `Report.FeedFree`: entries and reports whose texts are without line feeds.

## Main results

* `feedFree_markdownLines`: the lines of such a report.
-/

namespace CombatContent.Audit

open Text

/-- An entry whose id, messages, and names and values of fields are without line feeds. -/
structure Entry.FeedFree (e : Entry) : Prop where
  id : Text.FeedFree e.id
  errors : ∀ message ∈ e.errors, Text.FeedFree message
  warnings : ∀ message ∈ e.warnings, Text.FeedFree message
  names : ∀ f ∈ e.fields, Text.FeedFree f.1
  values : ∀ f ∈ e.fields, Text.FeedFree f.2.display

instance (e : Entry) : Decidable e.FeedFree :=
  decidable_of_iff (Text.FeedFree e.id ∧ (∀ message ∈ e.errors, Text.FeedFree message) ∧
      (∀ message ∈ e.warnings, Text.FeedFree message) ∧ (∀ f ∈ e.fields, Text.FeedFree f.1) ∧
      ∀ f ∈ e.fields, Text.FeedFree f.2.display)
    ⟨fun ⟨id, errors, warnings, names, values⟩ => ⟨id, errors, warnings, names, values⟩,
      fun h => ⟨h.id, h.errors, h.warnings, h.names, h.values⟩⟩

/-- A report whose entries are without line feeds, and its errors about references too. -/
structure Report.FeedFree (r : Report) : Prop where
  entries : ∀ e ∈ r.entries, e.FeedFree
  crossReferenceErrors : ∀ message ∈ r.crossReferenceErrors, Text.FeedFree message

instance (r : Report) : Decidable r.FeedFree :=
  decidable_of_iff ((∀ e ∈ r.entries, e.FeedFree) ∧
      ∀ message ∈ r.crossReferenceErrors, Text.FeedFree message)
    ⟨fun h => ⟨h.1, h.2⟩, fun h => ⟨h.entries, h.crossReferenceErrors⟩⟩

variable {e : Entry} {r : Report}

/-! ### Numbers and rows of tables -/

theorem feedFree_of_numeral {s : String} (h : ∀ c ∈ s.toList, Decimal.isNumeralChar c = true) :
    FeedFree s :=
  fun hmem => absurd (h _ hmem) (by decide)

@[simp]
theorem feedFree_nat (n : Nat) : FeedFree n.repr :=
  feedFree_of_numeral (Decimal.isNumeralChar_of_mem_nat n)

@[simp]
theorem feedFree_fixed (places : Nat) (x : Float) : FeedFree (Decimal.fixed places x) :=
  feedFree_of_numeral (Decimal.isNumeralChar_of_mem_fixed places x)

@[simp]
theorem feedFree_text (x : Float) : FeedFree (Decimal.text x) :=
  feedFree_of_numeral (Decimal.isNumeralChar_of_mem_text x)

theorem feedFree_tableRow {cells : List String} (h : ∀ cell ∈ cells, FeedFree cell) :
    FeedFree (tableRow cells) := by
  rw [tableRow, feedFree_append_iff, feedFree_append_iff, feedFree_intercalate_iff (by decide)]
  exact ⟨⟨by decide, h⟩, by decide⟩

/-- Messages behind a mark are without line feeds if they are, the mark being so. -/
theorem feedFree_marked {mark : String} {messages : List String} (hmark : FeedFree mark)
    (h : ∀ message ∈ messages, FeedFree message) :
    ∀ line ∈ messages.map (mark ++ ·), FeedFree line :=
  List.forall_mem_map.mpr fun message hmessage =>
    feedFree_append_iff.mpr ⟨hmark, h message hmessage⟩

/-! ### Opening lines -/

theorem feedFree_summaryLines (r : Report) : ∀ line ∈ summaryLines r, FeedFree line := by
  have hkey (d : Dataset) : FeedFree d.key := by cases d <;> decide
  have hhead : ∀ line ∈ ["## Summary", "", "| Dataset | Total | With Warnings | With Errors |",
      "|---------|-------|---------------|-------------|"], FeedFree line := by
    repeat refine List.forall_mem_cons.mpr ⟨feedFree_ofList (by decide), ?_⟩
    exact List.forall_mem_nil _
  rw [summaryLines]
  refine List.forall_mem_append.mpr ⟨List.forall_mem_append.mpr ⟨hhead, ?_⟩, by decide⟩
  refine List.forall_mem_map.mpr fun row _ => feedFree_tableRow ?_
  simp [hkey]

theorem feedFree_statusLine (r : Report) : FeedFree (statusLine r) := by
  rw [statusLine]
  split
  · simp +decide
  · simp +decide
  · exact feedFree_ofList (by decide)

theorem feedFree_crossReferenceLines (h : r.FeedFree) :
    ∀ line ∈ crossReferenceLines r, FeedFree line := by
  have herrors : ∀ line ∈ r.crossReferenceErrors.map ("- " ++ ·), FeedFree line :=
    feedFree_marked (by decide) h.crossReferenceErrors
  exact forall_mem_optional (List.forall_mem_append.mpr
    ⟨List.forall_mem_append.mpr ⟨by decide, herrors⟩, by decide⟩)

/-! ### Sections -/

theorem feedFree_fieldLines (h : e.FeedFree) : ∀ line ∈ fieldLines e, FeedFree line := by
  have hfields : ∀ line ∈ e.fields.map fun f => "  " ++ f.1 ++ ": " ++ f.2.display,
      FeedFree line := by
    refine List.forall_mem_map.mpr fun f hf => ?_
    simp +decide [h.names f hf, h.values f hf]
  exact forall_mem_optional (List.forall_mem_append.mpr
    ⟨List.forall_mem_append.mpr ⟨by decide, hfields⟩, by decide⟩)

theorem feedFree_issueLines (h : e.FeedFree) : ∀ line ∈ issueLines e, FeedFree line := by
  have hhead : ∀ line ∈ ["#### `" ++ e.id ++ "`", ""], FeedFree line := by
    simp +decide [h.id]
  have herrors : ∀ line ∈ e.errors.map ("- **ERROR**: " ++ ·), FeedFree line :=
    feedFree_marked (by decide) h.errors
  have hwarnings : ∀ line ∈ e.warnings.map ("- WARNING: " ++ ·), FeedFree line :=
    feedFree_marked (by decide) h.warnings
  rw [issueLines]
  simp only [List.forall_mem_append]
  exact ⟨⟨⟨⟨hhead, herrors⟩, hwarnings⟩, by decide⟩, feedFree_fieldLines h⟩

theorem feedFree_of_field?_eq_some (h : e.FeedFree) {name : String} {v : FieldValue}
    (hv : e.field? name = some v) : FeedFree v.display := by
  obtain ⟨f, hf, rfl⟩ := Option.map_eq_some_iff.mp hv
  exact h.values f (List.mem_of_find?_eq_some hf)

/-- A text cell shows a field, or a dash. -/
theorem feedFree_text?_getD (h : e.FeedFree) (name : String) :
    FeedFree ((e.text? name).getD "-") := by
  rw [Entry.text?]
  split
  · rename_i s hs
    split
    · decide
    · exact feedFree_of_field?_eq_some h hs
  · decide

theorem feedFree_list (h : e.FeedFree) (name : String) : ∀ item ∈ e.list name, FeedFree item := by
  rw [Entry.list]
  split
  · rename_i items hitems
    have hdisplay := feedFree_of_field?_eq_some h hitems
    rw [FieldValue.display, feedFree_append_iff, feedFree_append_iff,
      feedFree_intercalate_iff (by decide)] at hdisplay
    exact hdisplay.1.2
  · exact List.forall_mem_nil _

theorem feedFree_channelsCell {channels : List String} (h : ∀ c ∈ channels, FeedFree c) :
    FeedFree (channelsCell channels) := by
  rw [channelsCell]
  split
  · decide
  · exact (feedFree_intercalate_iff (by decide)).mpr h

theorem feedFree_cleanCells (h : e.FeedFree) : ∀ cell ∈ cleanCells e, FeedFree cell := by
  have hchannels := feedFree_channelsCell (feedFree_list h "channels")
  rw [cleanCells]
  split <;> simp +decide [h.id, hchannels, feedFree_text?_getD h]

theorem feedFree_cleanTable (d : Dataset) {clean : List Entry} (h : ∀ e ∈ clean, e.FeedFree) :
    ∀ line ∈ cleanTable d clean, FeedFree line := by
  have hcount : ∀ line ∈ ["_" ++ toString clean.length ++ " entries_"], FeedFree line := by
    simp +decide
  have hhead : ∀ line ∈ cleanHead d, FeedFree line := by
    cases d
    all_goals
      repeat refine List.forall_mem_cons.mpr ⟨feedFree_ofList (by decide), ?_⟩
      exact List.forall_mem_nil _
  have htable : ∀ line ∈ cleanHead d ++ clean.map fun e => tableRow (cleanCells e), FeedFree line :=
    List.forall_mem_append.mpr ⟨hhead, List.forall_mem_map.mpr fun e he =>
      feedFree_tableRow (feedFree_cleanCells (h e he))⟩
  cases d with
  | species | combatTests => exact hcount
  | _ => exact htable

theorem feedFree_sectionLines (d : Dataset) {es : List Entry} (h : ∀ e ∈ es, e.FeedFree) :
    ∀ line ∈ sectionLines d es, FeedFree line := by
  have htitle : ∀ line ∈ ["## " ++ d.title, ""], FeedFree line := by cases d <;> decide
  have hissues : ∀ line ∈ (es.filter fun e => !e.isClean).flatMap issueLines, FeedFree line :=
    List.forall_mem_flatMap.mpr fun e he => feedFree_issueLines (h e (List.mem_of_mem_filter he))
  have hclean : ∀ e ∈ es.filter Entry.isClean, e.FeedFree :=
    fun e he => h e (List.mem_of_mem_filter he)
  refine forall_mem_optional (List.forall_mem_append.mpr
    ⟨List.forall_mem_append.mpr ⟨htitle, ?_⟩, ?_⟩)
  · exact forall_mem_optional (List.forall_mem_append.mpr ⟨by decide, hissues⟩)
  · exact forall_mem_optional (List.forall_mem_append.mpr
      ⟨List.forall_mem_append.mpr ⟨by decide, feedFree_cleanTable d hclean⟩, by decide⟩)

/-- The lines of a report are without line feeds if its texts are. -/
theorem feedFree_markdownLines (h : r.FeedFree) : ∀ line ∈ markdownLines r, FeedFree line := by
  have hstatus : ∀ line ∈ [statusLine r, ""], FeedFree line :=
    List.forall_mem_cons.mpr ⟨feedFree_statusLine r, by decide⟩
  have hsections : ∀ line ∈ Dataset.all.flatMap fun d => sectionLines d (r.entriesOf d),
      FeedFree line :=
    List.forall_mem_flatMap.mpr fun d _ =>
      feedFree_sectionLines d fun e he => h.entries e (List.mem_of_mem_filter he)
  rw [markdownLines]
  simp only [List.forall_mem_append]
  exact ⟨⟨⟨⟨by decide, feedFree_summaryLines r⟩, hstatus⟩, feedFree_crossReferenceLines h⟩,
    hsections⟩

end CombatContent.Audit
