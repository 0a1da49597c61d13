import CombatContent.CommandLine.Run

/-!
# What is loaded from files

Loading looks at files and at the standard input, and changes neither. What it succeeds with is
described here by what the files hold, without the order in which they are looked at. It is a
function of what is seen of them: the text under each path, and whether something is there.

## Main definitions

* `FileView`, `FileAccess.Shows`: what is seen of files in a state that looking at them keeps.
* `FileView.HoldsDocument`, `FileView.HoldsSettings`, `FileView.HoldsCommitted`: what there is to
  load.
* `Loads`: loading succeeds with just what there is to load, and keeps the state.

## Main statements

* `loads_input`, `loads_settings`, `loads_committed`: what a run loads.
-/

namespace CombatContent

/-- What is seen of files: the text under a path, and whether something is there. -/
structure FileView where
  text : String → Except FileFault String
  isThere : String → Bool

/-- In the state `s` files are seen as `v` tells, and looking at them keeps the state. -/
structure FileAccess.Shows {σ : Type} (files : FileAccess (StateM σ)) (s : σ) (v : FileView) :
    Prop where
  read : ∀ path, (files.read path).run s = (v.text path, s)
  isThere : ∀ path, (files.isThere path).run s = (v.isThere path, s)

/-- A file whose extension tells a format holds what is read from its text in that format. -/
def FileView.Holds {α : Type} (v : FileView)
    (reader : DocumentFormat → String → String → Except LoadFault α) (path : String) (a : α) :
    Prop :=
  ∃ format text, formatOf path = .ok format ∧ v.text path = .ok text ∧
    reader format path text = .ok a

/-- The paths under which settings are found. -/
def FileView.settingsPaths (v : FileView) : List String :=
  ["armoury.ron", "armoury.toml", "armoury.json"].filter v.isThere

/-- The document that a named file holds, or the standard input as JSON. -/
inductive FileView.HoldsDocument (v : FileView) (bytes : ByteArray) : Option String → Tree → Prop
  | file {path document} (hfile : v.Holds Document.ofText path document) :
      v.HoldsDocument bytes (some path) document
  | standardInput {text document} (htext : decodeText bytes = .ok text)
      (hread : Document.ofText .json CommandLine.standardInputName text = .ok document) :
      v.HoldsDocument bytes none document

/-- A named file holds the document that its text is found to be when it is read. -/
theorem FileView.HoldsDocument.of_toOption {v : FileView} {bytes : ByteArray} {path text : String}
    {format : DocumentFormat} {document : Tree} (hformat : formatOf path = .ok format)
    (htext : v.text path = .ok text)
    (hread : (Document.ofText format path text).toOption = some document) :
    v.HoldsDocument bytes (some path) document := by
  refine .file ⟨format, text, hformat, htext, ?_⟩
  cases hanswer : Document.ofText format path text with
  | ok t =>
    rw [hanswer] at hread
    exact congrArg _ (Option.some.inj hread)
  | error fault =>
    rw [hanswer] at hread
    exact absurd hread (Option.some_ne_none _).symm

/-- The settings that a named file holds, or the only file found under their name; without either,
those that nothing was given for. -/
inductive FileView.HoldsSettings (v : FileView) : Option String → Settings → Prop
  | named {path settings} (hfile : v.Holds Settings.ofText path settings) :
      v.HoldsSettings (some path) settings
  | found {path settings} (hpath : v.settingsPaths = [path])
      (hfile : v.Holds Settings.ofText path settings) : v.HoldsSettings none settings
  | unset (hpath : v.settingsPaths = []) : v.HoldsSettings none {}

/-- The committed ids: none where the file is not there or declares none. -/
inductive FileView.HoldsCommitted (v : FileView) (source : EnumerationSource) :
    Option NameSet → Prop
  | absent (htext : v.text source.path = .error .notFound) : v.HoldsCommitted source none
  | withoutIds {text} (htext : v.text source.path = .ok text)
      (hids : (Enumeration.read source.format text).isEmpty = true) : v.HoldsCommitted source none
  | ids {text} (htext : v.text source.path = .ok text)
      (hids : (Enumeration.read source.format text).isEmpty = false) :
      v.HoldsCommitted source (some (Enumeration.read source.format text))

variable {σ α : Type}

/-- Loading keeps the state, and succeeds with just what there is to load. -/
def Loads (x : StateM σ (Except LoadFault α)) (s : σ) (holds : α → Prop) : Prop :=
  ∃ loaded, x.run s = (loaded, s) ∧ ∀ a, loaded = .ok a ↔ holds a

/-- What follows a step runs on from what the step gave and the state it left. -/
theorem run_bind_of_run_eq {β : Type} {x : StateM σ α} {f : α → StateM σ β} {a : α} {s s' : σ}
    (h : x.run s = (a, s')) : (x >>= f).run s = (f a).run s' := by
  rw [StateT.run_bind, h]
  rfl

namespace Loads

variable {x : StateM σ (Except LoadFault α)} {s : σ} {holds : α → Prop}

/-- Loading that gives the only thing there is to load. -/
theorem ok {a : α} (hrun : x.run s = (.ok a, s)) (hholds : ∀ b, holds b ↔ b = a) :
    Loads x s holds :=
  ⟨.ok a, hrun, fun b => by rw [hholds, Except.ok.injEq, eq_comm]⟩

/-- Loading that fails where there is nothing to load. -/
theorem error {fault : LoadFault} (hrun : x.run s = (.error fault, s)) (hholds : ∀ b, ¬ holds b) :
    Loads x s holds :=
  ⟨.error fault, hrun, fun b => by simp [hholds b]⟩

/-- What there is to load may be told in other words. -/
theorem congr {holds' : α → Prop} (h : Loads x s holds) (hholds : ∀ a, holds a ↔ holds' a) :
    Loads x s holds' := by
  obtain ⟨loaded, hrun, hloaded⟩ := h
  exact ⟨loaded, hrun, fun a => (hloaded a).trans (hholds a)⟩

/-- A step before loading that keeps the state is not seen. -/
theorem bind {β : Type} {y : StateM σ β} {f : β → StateM σ (Except LoadFault α)} {b : β}
    (hrun : y.run s = (b, s)) (h : Loads (f b) s holds) : Loads (y >>= f) s holds := by
  obtain ⟨loaded, hloaded, hiff⟩ := h
  exact ⟨loaded, (run_bind_of_run_eq hrun).trans hloaded, hiff⟩

end Loads

variable {files : FileAccess (StateM σ)} {s : σ} {v : FileView}

namespace FileAccess.Shows

/-- A file is loaded just if it holds what is loaded. -/
theorem loads_load (h : files.Shows s v)
    (reader : DocumentFormat → String → String → Except LoadFault α) (path : String) :
    Loads (files.load reader path) s (v.Holds reader path) := by
  rw [FileAccess.load]
  cases hformat : formatOf path with
  | error fault => exact .error rfl fun a => by simp [FileView.Holds, hformat]
  | ok format =>
    refine .bind (h.read path) ?_
    cases htext : v.text path with
    | error fault => exact .error rfl fun a => by simp [FileView.Holds, htext]
    | ok text => exact ⟨_, rfl, fun a => by simp [FileView.Holds, hformat, htext]⟩

/-- The document is loaded just if the named file or the standard input holds it. -/
theorem loads_input (h : files.Shows s v) (bytes : ByteArray) (input : Option String) :
    Loads (CommandLine.loadInput files (pure bytes) input) s (v.HoldsDocument bytes input) := by
  cases input with
  | some path =>
    exact (h.loads_load Document.ofText path).congr fun document =>
      ⟨.file, fun hholds => by cases hholds; assumption⟩
  | none =>
    refine .bind rfl ?_
    cases htext : decodeText bytes with
    | error fault =>
      refine .error rfl fun document hholds => ?_
      cases hholds with
      | standardInput hdecoded _ => simp [htext] at hdecoded
    | ok text =>
      refine ⟨_, rfl, fun document => ⟨.standardInput htext, fun hholds => ?_⟩⟩
      cases hholds with
      | standardInput hdecoded hread =>
        cases htext.symm.trans hdecoded
        exact hread

/-- Of given paths, those are found under which something is there. -/
theorem run_existing (h : files.Shows s v) (paths : List String) :
    (files.existing paths).run s = (paths.filter v.isThere, s) := by
  induction paths with
  | nil => rfl
  | cons path paths ih =>
    rw [FileAccess.existing, run_bind_of_run_eq (h.isThere path), run_bind_of_run_eq ih,
      List.filter_cons]
    rfl

/-- Settings that are looked for are those of the only file found, if any is found. -/
theorem loads_discovered (h : files.Shows s v) :
    Loads files.discoverSettings s (v.HoldsSettings none) := by
  have hrun : (files.existing (searchOrder.map fun format =>
      settingsName ++ "." ++ format.extension)).run s = (v.settingsPaths, s) := h.run_existing _
  rw [FileAccess.discoverSettings, FileAccess.findDataFile, bind_assoc]
  refine .bind hrun ?_
  cases hpaths : v.settingsPaths with
  | nil =>
    refine .ok rfl fun settings => ⟨fun hholds => ?_, fun hdefault => hdefault ▸ .unset hpaths⟩
    cases hholds with
    | found hpath _ => simp [hpaths] at hpath
    | unset _ => rfl
  | cons path rest =>
    cases rest with
    | nil =>
      refine (h.loads_load Settings.ofText path).congr fun settings =>
        ⟨.found hpaths, fun hholds => ?_⟩
      cases hholds with
      | found hpath hfile =>
        cases hpaths.symm.trans hpath
        exact hfile
      | unset hpath => simp [hpaths] at hpath
    | cons second rest =>
      refine .error rfl fun settings hholds => ?_
      cases hholds with
      | found hpath _ => simp [hpaths] at hpath
      | unset hpath => simp [hpaths] at hpath

/-- The settings are loaded just if the named file holds them, or what is found instead. -/
theorem loads_settings (h : files.Shows s v) (r : CommandLine.Request) :
    Loads (CommandLine.loadSettings files r) s (v.HoldsSettings r.settingsPath) := by
  rw [CommandLine.loadSettings]
  cases r.settingsPath with
  | none => exact h.loads_discovered
  | some path =>
    exact (h.loads_load Settings.ofText path).congr fun settings =>
      ⟨.named, fun hholds => by cases hholds; assumption⟩

/-- The committed ids are loaded just if they are what the file holds. -/
theorem loads_committed (h : files.Shows s v) (source : EnumerationSource) :
    Loads (files.loadCommitted source) s (v.HoldsCommitted source) := by
  refine .bind (h.read source.path) ?_
  cases htext : v.text source.path with
  | error fault =>
    cases fault with
    | notFound =>
      refine .ok rfl fun committed => ⟨fun hholds => ?_, fun hnone => hnone ▸ .absent htext⟩
      cases hholds with
      | absent _ => rfl
      | withoutIds _ _ => rfl
      | ids hread _ => simp [htext] at hread
    | _ =>
      refine .error rfl fun committed hholds => ?_
      cases hholds <;> simp_all only [reduceCtorEq, Except.error.injEq]
  | ok text =>
    refine .ok rfl fun committed => ⟨fun hholds => ?_, fun hids => ?_⟩
    · cases hholds with
      | absent hread => simp [htext] at hread
      | withoutIds hread hids =>
        cases htext.symm.trans hread
        rw [if_pos hids]
      | ids hread hids =>
        cases htext.symm.trans hread
        rw [hids, if_neg Bool.false_ne_true]
    · subst hids
      split
      case isTrue hempty => exact .withoutIds htext hempty
      case isFalse hempty => exact .ids htext (eq_false_of_ne_true hempty)

end FileAccess.Shows

end CombatContent
