import CombatContent.Proofs.CommandLine.Folders

/-!
# Runs that do all or nothing

A run that generates tables is a chain of loads with a check at the end, of which any may fail. It
changes no file, and either all of its steps succeed and it writes what was generated, or it writes
nothing and fails. An audit depends on the document alone: where the document is loaded, its report
is written whatever the verdict is, and the exit tells the verdict.

## Main definitions

* `FileView.Generates`: what there is to generate for a request.
* `IsAllOrNothing`: how a run ends that writes nothing unless it succeeds.
* `GenerationEnd`, `AuditEnd`: how runs of the two kinds end.

## Main statements

* `run_perform`: a run acts on the content of the document that it loads.
* `run_all_or_nothing`: every accepted command line ends so.
-/

namespace CombatContent

open CommandLine (Request Outcome)

/-- The text that there is to generate for a request: document, settings and committed ids are
loaded, and the content is accepted. -/
def FileView.Generates (v : FileView) (bytes : ByteArray) (r : Request) (text : String) : Prop :=
  ∃ document, v.HoldsDocument bytes r.input document ∧
    ∃ settings, v.HoldsSettings r.settingsPath settings ∧
      ∃ committed, v.HoldsCommitted (CommandLine.sourceOf r settings) committed ∧
        Zig.generate (Content.ofDocument document) committed = .ok text

namespace CommandLine

variable {σ α : Type} {files : FileAccess (StateM σ)} {s : σ} {v : FileView}

/-! ### Generation -/

/-- A run keeps the state; it succeeds and writes the only accepted text, or there is none and it
fails and writes nothing. -/
def IsAllOrNothing (s : σ) (accepted : String → Prop) (ended : Outcome × σ) : Prop :=
  ended.2 = s ∧
    ((∃ text, (∀ other, accepted other ↔ other = text) ∧ ended.1.exit = .success ∧
        ended.1.output = text) ∨
      ((∀ other, ¬ accepted other) ∧ ended.1.exit = .failure ∧ ended.1.output = ""))

/-- Generated text is written and a refusal is not. -/
theorem isAllOrNothing_ofGenerated (s : σ) (generated : Except Zig.Refusal String) :
    IsAllOrNothing s (fun text => generated = .ok text)
      (StateT.run (pure (.ofGenerated generated) : StateM σ Outcome) s) := by
  refine ⟨rfl, ?_⟩
  cases generated with
  | ok text =>
    exact .inl ⟨text, fun other => by simp only [Except.ok.injEq, eq_comm], rfl, rfl⟩
  | error refusal => exact .inr ⟨fun other h => by simp at h, rfl, rfl⟩

/-- A run that loads something first and then does all or nothing does so as a whole. -/
theorem isAllOrNothing_bind {x : StateM σ (Except LoadFault α)}
    {f : Except LoadFault α → StateM σ Outcome} {holds : α → Prop} {accepted : α → String → Prop}
    (hx : Loads x s holds) (herror : ∀ fault, f (.error fault) = pure (.notLoaded fault))
    (hok : ∀ a, holds a → IsAllOrNothing s (accepted a) ((f (.ok a)).run s)) :
    IsAllOrNothing s (fun text => ∃ a, holds a ∧ accepted a text) ((x >>= f).run s) := by
  obtain ⟨loaded, hrun, hloaded⟩ := hx
  rw [run_bind_of_run_eq hrun]
  cases loaded with
  | error fault =>
    have hnone (a : α) : ¬ holds a := fun h => by simpa using (hloaded a).mpr h
    rw [herror]
    exact ⟨rfl, .inr ⟨fun text ⟨a, ha, _⟩ => hnone a ha, rfl, rfl⟩⟩
  | ok a =>
    have hiff (text : String) : (∃ b, holds b ∧ accepted b text) ↔ accepted a text := by
      simp [← hloaded]
    simpa only [IsAllOrNothing, hiff] using hok a ((hloaded a).mp rfl)

/-- Generating from content does all or nothing. -/
theorem isAllOrNothing_generate (hfiles : files.Shows s v) (r : Request) (c : Content) :
    IsAllOrNothing s
      (fun text => ∃ settings, v.HoldsSettings r.settingsPath settings ∧
        ∃ committed, v.HoldsCommitted (sourceOf r settings) committed ∧
          Zig.generate c committed = .ok text)
      ((generate files r c).run s) :=
  isAllOrNothing_bind (hfiles.loads_settings r) (fun _ => rfl) fun settings _ =>
    isAllOrNothing_bind (hfiles.loads_committed (sourceOf r settings)) (fun _ => rfl)
      fun committed _ => isAllOrNothing_ofGenerated s (Zig.generate c committed)

/-- A run that is no audit does all or nothing. -/
theorem isAllOrNothing_perform (hfiles : files.Shows s v) (bytes : ByteArray) {r : Request}
    (hr : r.isAudit = false) :
    IsAllOrNothing s (v.Generates bytes r) ((perform files (pure bytes) r).run s) := by
  simp only [perform, hr, Bool.false_eq_true, ↓reduceIte]
  exact isAllOrNothing_bind (hfiles.loads_input bytes r.input) (fun _ => rfl) fun document _ =>
    isAllOrNothing_generate hfiles r (Content.ofDocument document)

/-- How a generation ends: it changes no file, and exits with zero just if there is something to
generate, which it then writes; otherwise it exits with one and writes nothing. -/
structure GenerationEnd (s : σ) (v : FileView) (bytes : ByteArray) (r : Request)
    (ended : Outcome × σ) : Prop where
  state_eq : ended.2 = s
  code_eq_zero_iff : ended.1.exit.code = 0 ↔ ∃ text, v.Generates bytes r text
  output_eq : ∀ text, v.Generates bytes r text → ended.1.output = text
  refused : (∀ text, ¬ v.Generates bytes r text) → ended.1.exit.code = 1 ∧ ended.1.output = ""

/-- A run that does all or nothing ends so. -/
theorem IsAllOrNothing.generationEnd {bytes : ByteArray} {r : Request} {ended : Outcome × σ}
    (h : IsAllOrNothing s (v.Generates bytes r) ended) : GenerationEnd s v bytes r ended := by
  obtain ⟨hstate, ⟨text, haccepted, hexit, houtput⟩ | ⟨hnone, hexit, houtput⟩⟩ := h
  · have hgenerates : v.Generates bytes r text := (haccepted text).mpr rfl
    refine ⟨hstate, ?_, ?_, ?_⟩
    · exact iff_of_true (by rw [hexit]; rfl) ⟨text, hgenerates⟩
    · exact fun other hother => houtput.trans ((haccepted other).mp hother).symm
    · exact fun hnone => absurd hgenerates (hnone text)
  · refine ⟨hstate, ?_, fun text htext => absurd htext (hnone text), ?_⟩
    · exact iff_of_false (by rw [hexit]; decide) (not_exists.mpr hnone)
    · exact fun _ => ⟨by rw [hexit]; rfl, houtput⟩

/-! ### Audits -/

/-- The text of the audit of a document: the report and one line feed. -/
def auditText (document : Tree) : String :=
  Audit.markdown (Audit.run (Content.ofDocument document)) ++ "\n"

/-- The verdict on a document as a code: one if its report has errors, and else zero. -/
def verdictCode (document : Tree) : Nat :=
  if (Audit.run (Content.ofDocument document)).hasErrors then 1 else 0

/-- How an audit ends: without a document it exits with one, writes nothing and changes no file. Of
a document it writes the report to the one place that is asked for, and exits with the verdict. -/
structure AuditEnd (files : FileAccess (StateM σ)) (s : σ) (v : FileView) (bytes : ByteArray)
    (r : Request) (ended : Outcome × σ) : Prop where
  notLoaded : (∀ document, ¬ v.HoldsDocument bytes r.input document) →
    ended.1.exit.code = 1 ∧ ended.1.output = "" ∧ ended.2 = s
  printed : ∀ document, v.HoldsDocument bytes r.input document → r.reportPath = none →
    ended.1.exit.code = verdictCode document ∧ ended.1.output = auditText document ∧ ended.2 = s
  filed : ∀ document path s', v.HoldsDocument bytes r.input document → r.reportPath = some path →
    (files.write path (auditText document)).run s = (true, s') →
      ended.1.exit.code = verdictCode document ∧ ended.1.output = "" ∧ ended.2 = s'

/-- The exit for a report has the verdict as its code. -/
theorem code_exitOf (document : Tree) :
    (exitOf (Audit.run (Content.ofDocument document))).code = verdictCode document := by
  rw [exitOf, verdictCode]
  split <;> rfl

/-- An audit without a path for the report writes it to the standard output. -/
theorem run_audit_none (files : FileAccess (StateM σ)) (s : σ) (document : Tree) :
    (audit files none (Content.ofDocument document)).run s =
      (⟨exitOf (Audit.run (Content.ofDocument document)), auditText document, none⟩, s) := rfl

/-- An audit with a path for the report writes it there. -/
theorem run_audit_some {path : String} {document : Tree} {s' : σ}
    (hwrite : (files.write path (auditText document)).run s = (true, s')) :
    (audit files (some path) (Content.ofDocument document)).run s =
      (⟨exitOf (Audit.run (Content.ofDocument document)), "", none⟩, s') := by
  rw [auditText] at hwrite
  simp only [audit]
  rw [run_bind_of_run_eq hwrite, if_pos rfl, StateT.run_pure]
  rfl

/-- A run that loads a document audits its content, or generates from it. -/
theorem run_perform (hfiles : files.Shows s v) {bytes : ByteArray} {r : Request} {document : Tree}
    (h : v.HoldsDocument bytes r.input document) :
    (perform files (pure bytes) r).run s =
      (if r.isAudit then audit files r.reportPath (Content.ofDocument document)
        else generate files r (Content.ofDocument document)).run s := by
  obtain ⟨loaded, hrun, hloaded⟩ := hfiles.loads_input bytes r.input
  rw [perform, run_bind_of_run_eq hrun, (hloaded document).mpr h]

/-- A run that loads no document fails, and writes nothing. -/
theorem run_perform_of_not_held (hfiles : files.Shows s v) {bytes : ByteArray} {r : Request}
    (h : ∀ document, ¬ v.HoldsDocument bytes r.input document) :
    ∃ fault, (perform files (pure bytes) r).run s = (.notLoaded fault, s) := by
  obtain ⟨loaded, hrun, hloaded⟩ := hfiles.loads_input bytes r.input
  rw [perform, run_bind_of_run_eq hrun]
  cases loaded with
  | error fault => exact ⟨fault, rfl⟩
  | ok document => exact absurd ((hloaded document).mp rfl) (h document)

/-- A run that is an audit ends as audits end. -/
theorem auditEnd_perform (hfiles : files.Shows s v) (bytes : ByteArray) {r : Request}
    (hr : r.isAudit = true) :
    AuditEnd files s v bytes r ((perform files (pure bytes) r).run s) := by
  refine ⟨fun hnone => ?_, fun document h hpath => ?_, fun document path s' h hpath hwrite => ?_⟩
  · obtain ⟨fault, hrun⟩ := run_perform_of_not_held hfiles hnone
    rw [hrun]
    exact ⟨rfl, rfl, rfl⟩
  · rw [run_perform hfiles h, if_pos hr, hpath, run_audit_none]
    simp only [code_exitOf, and_self]
  · rw [run_perform hfiles h, if_pos hr, hpath, run_audit_some hwrite]
    simp only [code_exitOf, and_self]

/-- The document is loaded alike from files that are alike under its name. -/
theorem loadInput_congr {m : Type → Type} [Monad m] {files files' : FileAccess m}
    (standardInput : m ByteArray) {input : Option String}
    (hread : ∀ path, input = some path → files'.read path = files.read path) :
    loadInput files' standardInput input = loadInput files standardInput input := by
  cases input with
  | none => rfl
  | some path =>
    simp only [loadInput, FileAccess.loadDocument, FileAccess.load, hread path rfl]

/-- Audits of one document into one place are the same, whatever other files there are and whatever
settings and committed ids are asked for. -/
theorem perform_audit_congr {m : Type → Type} [Monad m] {files files' : FileAccess m}
    (standardInput : m ByteArray) {r r' : Request} (hr : r.isAudit = true)
    (hr' : r'.isAudit = true) (hinput : r'.input = r.input)
    (hpath : r'.reportPath = r.reportPath) (hwrite : files'.write = files.write)
    (hread : ∀ path, r.input = some path → files'.read path = files.read path) :
    perform files' standardInput r' = perform files standardInput r := by
  simp only [perform, hr, hr', ↓reduceIte, hinput, hpath, loadInput_congr standardInput hread,
    audit, hwrite]

/-! ### Command lines -/

/-- Every accepted command line does all or nothing when it generates, and ends with its report and
verdict when it audits, for which it looks neither for settings nor for committed ids. -/
theorem run_all_or_nothing (hfiles : files.Shows s v) (bytes : ByteArray) {words : List String}
    {r : Request} (hwords : Invocation.ofWords words = .ok (.run r)) :
    (r.isAudit = false →
      GenerationEnd s v bytes r ((run files (pure bytes) words).run s)) ∧
    (r.isAudit = true →
      AuditEnd files s v bytes r ((run files (pure bytes) words).run s) ∧
      ∀ (files' : FileAccess (StateM σ)) (words' : List String) (r' : Request),
        Invocation.ofWords words' = .ok (.run r') → r'.isAudit = true → r'.input = r.input →
        r'.reportPath = r.reportPath → files'.write = files.write →
        (∀ path, r.input = some path → files'.read path = files.read path) →
        run files' (pure bytes) words' = run files (pure bytes) words) := by
  have hrun (files : FileAccess (StateM σ)) {words : List String} {r : Request}
      (hwords : Invocation.ofWords words = .ok (.run r)) :
      run files (pure bytes) words = perform files (pure bytes) r := by
    rw [run, hwords]
  rw [hrun files hwords]
  refine ⟨fun hr => ?_, fun hr => ⟨?_, ?_⟩⟩
  · exact (isAllOrNothing_perform hfiles bytes hr).generationEnd
  · exact auditEnd_perform hfiles bytes hr
  · intro files' words' r' hwords' hr' hinput hpath hwrite hread
    rw [hrun files' hwords']
    exact perform_audit_congr (pure bytes) hr hr' hinput hpath hwrite hread

/-- A document with one technique. -/
def cutDocument : Tree := .map [("techniques", .map [("cut", .map [("name", .text "Cut")])])]

/-- A document whose technique cannot be typed. -/
def namelessDocument : Tree := .map [("techniques", .map [("cut", .map [("name", .list [])])])]

/-- The two documents, and the committed ids of the first. -/
def cutFolder : Folder := [
  ("cut.json", .file "\x7b\"techniques\": \x7b\"cut\": \x7b\"name\": \"Cut\"\x7d\x7d\x7d".toUTF8),
  ("nameless.json", .file "\x7b\"techniques\": \x7b\"cut\": \x7b\"name\": []\x7d\x7d\x7d".toUTF8),
  ("cards.zig", .file "pub const TechniqueID\n    cut,\n".toUTF8)]

theorem generates_cutFolder :
    let c := Content.ofDocument cutDocument
    cutFolder.view.Generates .empty { input := some "cut.json", committedPath := some "cards.zig" }
      (Zig.render c c.techniqueIds) := by
  let ids := Enumeration.read {} "pub const TechniqueID\n    cut,\n"
  have hcommitted : cutFolder.view.HoldsCommitted { path := "cards.zig" } (some ids) :=
    .ids rfl (by decide +kernel)
  have hmalformed : (Content.ofDocument cutDocument).malformed = [] :=
    List.isEmpty_iff.mp (by decide +kernel)
  have hids : ids = (Content.ofDocument cutDocument).techniqueIds := by decide +kernel
  have hdocument : cutFolder.view.HoldsDocument .empty (some "cut.json") cutDocument :=
    .of_toOption rfl rfl (by decide +kernel)
  refine ⟨cutDocument, hdocument, {}, .unset rfl, some ids, hcommitted, ?_⟩
  exact Zig.generate_eq_ok_iff.mpr ⟨hmalformed, .inr (.inr (congrArg some hids)), rfl⟩

theorem run_all_or_nothing_cutFolder :
    let c := Content.ofDocument cutDocument
    let generated :=
      (run Folder.access (pure .empty) ["cut.json", "--oracle=cards.zig"]).run cutFolder
    let audited :=
      (run Folder.access (pure .empty) ["nameless.json", "--audit-report=report.md"]).run cutFolder
    (generated.1.exit.code = 0 ∧ generated.1.output = Zig.render c c.techniqueIds ∧
        generated.2 = cutFolder) ∧
      audited.1.exit.code = 1 ∧ audited.1.output = "" ∧
        audited.2.read "report.md" = .ok (auditText namelessDocument) := by
  intro c generated audited
  have hgenerate : Invocation.ofWords ["cut.json", "--oracle=cards.zig"] =
      .ok (.run { input := some "cut.json", committedPath := some "cards.zig" }) := rfl
  have haudit : Invocation.ofWords ["nameless.json", "--audit-report=report.md"] =
      .ok (.run { input := some "nameless.json", reportPath := some "report.md" }) := rfl
  constructor
  · have hend := (run_all_or_nothing cutFolder.shows_view .empty hgenerate).1 rfl
    exact ⟨hend.code_eq_zero_iff.mpr ⟨_, generates_cutFolder⟩,
      hend.output_eq _ generates_cutFolder, hend.state_eq⟩
  · have hend := ((run_all_or_nothing cutFolder.shows_view .empty haudit).2 rfl).1
    have hdocument : cutFolder.view.HoldsDocument .empty (some "nameless.json") namelessDocument :=
      .of_toOption rfl rfl (by decide +kernel)
    have hwrite : cutFolder.write "report.md" (auditText namelessDocument) =
        some (cutFolder.putAt (.file (auditText namelessDocument).toUTF8) ["report.md"]) := rfl
    have herrors : verdictCode namelessDocument = 1 := by decide +kernel
    obtain ⟨hcode, houtput, hstate⟩ :=
      hend.filed namelessDocument "report.md" _ hdocument rfl (Folder.run_write hwrite)
    refine ⟨hcode.trans herrors, houtput, ?_⟩
    rw [hstate]
    exact Folder.read_of_write hwrite

end CommandLine

end CombatContent
