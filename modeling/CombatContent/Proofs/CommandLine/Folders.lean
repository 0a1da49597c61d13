import CombatContent.Folder
import CombatContent.Proofs.CommandLine.Loading

/-!
# Folders as files

A folder in memory behaves as files should: looking at it keeps it, and what is written under a path
is read there afterwards. For the latter a path is taken to the names that lead straight to its
place. Writing keeps every folder a folder, so the steps of the path lead to that place again.

## Main definitions

* `Folder.view`: what is seen of a folder.
* `FolderEntry.at?`: the entry that names lead to.
* `FolderEntry.Stands`: where steps have led, with the folders around it.

## Main statements

* `Folder.shows_view`: looking at a folder keeps it.
* `Folder.read_of_write`: what is written is read.
-/

namespace CombatContent

/-- What is seen of a folder. -/
def Folder.view (folder : Folder) : FileView where
  text := folder.read
  isThere path := (folder.find path).toBool

/-- Looking at a folder keeps it. -/
theorem Folder.shows_view (folder : Folder) : Folder.access.Shows folder folder.view :=
  ⟨fun _ => rfl, fun _ => rfl⟩

/-- A write that is done leaves the folder with what is written. -/
theorem Folder.run_write {folder folder' : Folder} {path text : String}
    (h : folder.write path text = some folder') :
    (Folder.access.write path text).run folder = (true, folder') := by
  have hget : (get : StateM Folder Folder).run folder = (folder, folder) := rfl
  simp only [Folder.access]
  rw [run_bind_of_run_eq hget, h]
  rfl

/-- Text that is written as bytes is read from them. -/
theorem decodeText_toUTF8 (text : String) : decodeText text.toUTF8 = .ok text := by
  rw [decodeText, String.fromUTF8?, String.toUTF8_eq_toByteArray, dif_pos text.isValidUTF8]
  rfl

/-! ### Paths and entries -/

/-- A path has a step at least. -/
theorem Path.steps_ne_nil (path : String) : steps path ≠ [] := by
  rw [steps, ne_eq, List.map_eq_nil_iff]
  cases path.toList with
  | nil => simp [steps.go]
  | cons c cs =>
    simp only [steps.go]
    split
    · simp
    · split <;> simp

namespace FolderEntry

/-- The entry that names lead to, each in the folder before it. -/
def at? : FolderEntry → List String → Option FolderEntry
  | here, [] => some here
  | .file _, _ :: _ => none
  | .folder entries, name :: names => (entries.lookup name).bind fun entry => at? entry names

/-- Names, the last one first, lead from the root through the folders `outer` to `here`. -/
inductive Stands (root : FolderEntry) : List String → List FolderEntry → FolderEntry → Prop
  | root : Stands root [] [] root
  | inside {names outer entries name here} (hout : Stands root names outer (.folder entries))
      (hname : entries.lookup name = some here) :
      Stands root (name :: names) (.folder entries :: outer) here

variable {root here : FolderEntry} {names : List String} {outer : List FolderEntry}

@[simp] theorem at?_nil (here : FolderEntry) : here.at? [] = some here := by cases here <;> rfl

theorem at?_singleton (entries : Folder) (name : String) :
    (FolderEntry.folder entries).at? [name] = entries.lookup name := by simp [at?]

theorem at?_append (root : FolderEntry) (names names' : List String) :
    root.at? (names ++ names') = (root.at? names).bind fun entry => entry.at? names' := by
  induction names generalizing root with
  | nil => cases root <;> rfl
  | cons name names ih =>
    cases root with
    | file bytes => rfl
    | folder entries =>
      rw [List.cons_append, at?, at?, Option.bind_assoc]
      exact Option.bind_congr fun entry _ => ih entry

/-- Where steps have led is the entry at the names. -/
theorem Stands.at?_eq (h : Stands root names outer here) : root.at? names.reverse = some here := by
  induction h with
  | root => cases root <;> rfl
  | inside hout hname ih =>
    rw [List.reverse_cons, at?_append, ih, Option.bind_some, at?, hname]
    cases here <;> rfl

/-- Names lead from a folder only to a folder. -/
theorem exists_eq_folder_of_at? {entries : Folder} (h : here.at? names = some (.folder entries)) :
    ∃ inner, here = .folder inner := by
  cases here with
  | folder inner => exact ⟨inner, rfl⟩
  | file bytes => cases names <;> simp [at?] at h

end FolderEntry

namespace Folder

open FolderEntry (Stands)

/-! ### Putting an entry -/

/-- The entry of a name in a folder with one more entry in front. -/
theorem lookup_cons (key : String) (held : FolderEntry) (folder : Folder) (other : String) :
    List.lookup other ((key, held) :: folder) =
      if other = key then some held else folder.lookup other := by
  by_cases h : other = key
  · rw [if_pos h, h, List.lookup_cons_self]
  · rw [if_neg h, List.lookup_cons, beq_false_of_ne h]

/-- Giving a name another entry in its place leaves the entries of the other names. -/
theorem lookup_map (folder : Folder) (name : String) (entry : FolderEntry) (other : String) :
    List.lookup other (folder.map fun e => if e.1 == name then (name, entry) else e) =
      if other = name then (folder.lookup name).map fun _ => entry else folder.lookup other := by
  induction folder with
  | nil => simp
  | cons e folder ih =>
    obtain ⟨key, held⟩ := e
    rw [List.map_cons]
    by_cases hkey : key = name
    · subst hkey
      by_cases hother : other = key
      · simp [hother]
      · simpa [hother, lookup_cons] using ih
    · by_cases hother : other = key
      · simp [hother, hkey]
      · simpa [hother, hkey, Ne.symm hkey, lookup_cons] using ih

/-- A replaced name has its new entry, and every other name has the entry it had. -/
theorem lookup_replace (folder : Folder) (name : String) (entry : FolderEntry) (other : String) :
    List.lookup other (folder.replace name entry) =
      if other = name then some entry else folder.lookup other := by
  rw [replace]
  by_cases hname : (folder.lookup name).isSome
  · obtain ⟨held, hheld⟩ := Option.isSome_iff_exists.mp hname
    rw [if_pos hname, lookup_map, hheld, Option.map_some]
  · have hnone : folder.lookup name = none := Option.not_isSome_iff_eq_none.mp hname
    rw [if_neg hname, List.lookup_append, lookup_cons, List.lookup_nil]
    by_cases hother : other = name
    · simp [hother, hnone]
    · simp [hother]

/-- Putting an entry at the end of names replaces what stands under the first of them; if that is
not the only one, by its folder with the entry put at the end of the others. -/
theorem exists_putAt_cons (folder : Folder) (entry : FolderEntry) (name : String)
    (names : List String) :
    ∃ held, folder.putAt entry (name :: names) = folder.replace name held ∧
      if names = [] then held = entry
      else ∃ inner : Folder, held = .folder (inner.putAt entry names) ∧
        ∀ entries, folder.lookup name = some (.folder entries) → inner = entries := by
  cases names with
  | nil => exact ⟨entry, rfl, rfl⟩
  | cons second rest => exact ⟨_, rfl, _, rfl, fun entries h => by rw [h]⟩

/-- An entry is where it is put. -/
theorem at?_putAt (folder : Folder) (entry : FolderEntry) {names : List String}
    (hnames : names ≠ []) :
    (FolderEntry.folder (folder.putAt entry names)).at? names = some entry := by
  induction names generalizing folder with
  | nil => exact absurd rfl hnames
  | cons name names ih =>
    obtain ⟨held, hput, hheld⟩ := exists_putAt_cons folder entry name names
    rw [hput, FolderEntry.at?, lookup_replace, if_pos rfl, Option.bind_some]
    by_cases hlast : names = []
    · rw [if_pos hlast] at hheld
      rw [hlast, hheld]
      cases entry <;> rfl
    · rw [if_neg hlast] at hheld
      obtain ⟨inner, rfl, -⟩ := hheld
      exact ih inner hlast

/-- Where an entry is put that replaces no folder, every folder is one still. -/
theorem exists_at?_putAt {folder : Folder} (entry : FolderEntry) {target : List String}
    (htarget : ∀ entries, (FolderEntry.folder folder).at? target ≠ some (.folder entries))
    {names : List String} {entries : Folder}
    (h : (FolderEntry.folder folder).at? names = some (.folder entries)) :
    ∃ entries', (FolderEntry.folder (folder.putAt entry target)).at? names =
      some (.folder entries') := by
  induction target generalizing folder names with
  | nil => exact absurd rfl (htarget folder)
  | cons name target ih =>
    cases names with
    | nil => exact ⟨_, rfl⟩
    | cons other names =>
      obtain ⟨held, hput, hheld⟩ := exists_putAt_cons folder entry name target
      rw [hput, FolderEntry.at?, lookup_replace]
      by_cases hother : other = name
      · subst hother
        rw [if_pos rfl, Option.bind_some]
        obtain ⟨e, hlookup, hnames⟩ := Option.bind_eq_some_iff.mp h
        obtain ⟨inner, rfl⟩ := FolderEntry.exists_eq_folder_of_at? hnames
        rw [FolderEntry.at?, hlookup, Option.bind_some] at htarget
        by_cases hlast : target = []
        · rw [hlast] at htarget
          exact absurd rfl (htarget inner)
        · rw [if_neg hlast] at hheld
          obtain ⟨_, rfl, hinner⟩ := hheld
          rw [hinner inner hlookup]
          exact ih htarget hnames
      · rw [if_neg hother]
        exact ⟨entries, h⟩

/-! ### Following steps -/

section Follow

variable {root root' here here' : FolderEntry} {names : List String}
  {outer outer' : List FolderEntry} {steps : List String} {entries : Folder}

/-- Steps that end at a folder start from one. -/
theorem exists_eq_folder_of_follow (h : follow outer here steps = .ok (.folder entries)) :
    ∃ inner, here = .folder inner := by
  cases here with
  | folder inner => exact ⟨inner, rfl⟩
  | file bytes => cases steps <;> simp [follow] at h

/-- Steps that lead to a folder lead to a place of the same names wherever every folder is one
still, and they lead there whatever steps follow. -/
theorem exists_stands_of_follow
    (hkeep : ∀ names entries, root.at? names = some (.folder entries) →
      ∃ entries', root'.at? names = some (.folder entries'))
    (h : Stands root names outer here) (h' : Stands root' names outer' here')
    (hfollow : follow outer here steps = .ok (.folder entries)) :
    ∃ names₁ outer₁ outer₁' entries', Stands root names₁ outer₁ (.folder entries) ∧
      Stands root' names₁ outer₁' (.folder entries') ∧ ∀ rest,
        follow outer here (steps ++ rest) = follow outer₁ (.folder entries) rest ∧
        follow outer' here' (steps ++ rest) = follow outer₁' (.folder entries') rest ∧
        settle names (steps ++ rest) = settle names₁ rest := by
  have hfolder {names : List String} {outer outer' : List FolderEntry} {inner : Folder}
      {here' : FolderEntry} (h : Stands root names outer (.folder inner))
      (h' : Stands root' names outer' here') : ∃ inner', here' = .folder inner' := by
    obtain ⟨inner', hinner'⟩ := hkeep _ _ h.at?_eq
    exact ⟨inner', Option.some.inj (h'.at?_eq.symm.trans hinner')⟩
  induction steps generalizing names outer here outer' here' with
  | nil =>
    cases hfollow
    obtain ⟨entries', rfl⟩ := hfolder h h'
    exact ⟨names, outer, outer', entries', h, h', fun _ => ⟨rfl, rfl, rfl⟩⟩
  | cons step steps ih =>
    obtain ⟨inner, rfl⟩ := exists_eq_folder_of_follow hfollow
    obtain ⟨inner', rfl⟩ := hfolder h h'
    by_cases hstay : step = "" ∨ step = "."
    · simp only [List.cons_append, follow, settle, if_pos hstay] at hfollow ⊢
      exact ih h h' hfollow
    · by_cases hup : step = ".."
      · simp only [List.cons_append, follow, settle, if_neg hstay, if_pos hup] at hfollow ⊢
        cases h with
        | root => simp at hfollow
        | inside hout hname =>
          cases h' with
          | inside hout' hname' => exact ih hout hout' hfollow
      · simp only [List.cons_append, follow, settle, if_neg hstay, if_neg hup] at hfollow ⊢
        cases hlookup : inner.lookup step with
        | none => simp [hlookup] at hfollow
        | some entry =>
          rw [hlookup] at hfollow
          obtain ⟨below, rfl⟩ := exists_eq_folder_of_follow hfollow
          obtain ⟨below', hbelow'⟩ := hkeep _ _ (h.inside hlookup).at?_eq
          rw [List.reverse_cons, FolderEntry.at?_append, h'.at?_eq, Option.bind_some,
            FolderEntry.at?] at hbelow'
          obtain ⟨entry', hlookup', -⟩ := Option.bind_eq_some_iff.mp hbelow'
          rw [hlookup']
          exact ih (h.inside hlookup) (h'.inside hlookup') hfollow

end Follow

/-- Whether a step moves into a place of its folder. -/
def IsName (step : String) : Prop := step ≠ "" ∧ step ≠ "." ∧ step ≠ ".."

/-- A last step that is a name leads to the entry of that name. -/
theorem follow_name_eq_ok_iff {name : String} (h : IsName name) {outer : List FolderEntry}
    {entries : Folder} {entry : FolderEntry} :
    follow outer (.folder entries) [name] = .ok entry ↔ entries.lookup name = some entry := by
  simp only [follow, if_neg (not_or.mpr ⟨h.1, h.2.1⟩), if_neg h.2.2]
  cases entries.lookup name <;> simp

/-- A last step that is a name is the last of the names. -/
theorem settle_name {name : String} (h : IsName name) (names : List String) :
    settle names [name] = names.reverse ++ [name] := by
  simp [settle, h.1, h.2.1, h.2.2]

/-! ### Writing -/

/-- A file is written where its folder is there and no folder has its name. -/
theorem exists_of_write {folder folder' : Folder} {path text : String}
    (h : folder.write path text = some folder') :
    ∃ before last entries, Path.steps path = before ++ [last] ∧
      follow [] (.folder folder) before = .ok (.folder entries) ∧
      (∀ found, folder.find path ≠ .ok (.folder found)) ∧
      (¬ (path.isEmpty = true ∨ isAbsolute path = true) ∧ last ≠ "" ∧ last ≠ "..") ∧
      folder' = folder.putAt (.file text.toUTF8) (settle [] (Path.steps path)) := by
  have hsteps := (List.dropLast_concat_getLast (Path.steps_ne_nil path)).symm
  simp only [write, List.getLast?_eq_some_getLast (Path.steps_ne_nil path), Option.some.injEq] at h
  split at h
  · simp at h
  · simp at h
  case h_3 entries hbefore hfind _ =>
    by_cases hplace : path.isEmpty = true ∨ isAbsolute path = true ∨
        (Path.steps path).getLast (Path.steps_ne_nil path) = "" ∨
        (Path.steps path).getLast (Path.steps_ne_nil path) = ".."
    · rw [if_pos hplace] at h
      cases h
    · rw [if_neg hplace] at h
      simp only [not_or] at hplace ⊢
      obtain ⟨hempty, habsolute, hlast⟩ := hplace
      exact ⟨_, _, entries, hsteps, hbefore, hfind, ⟨⟨hempty, habsolute⟩, hlast⟩,
        (Option.some.inj h).symm⟩
  · simp at h

/-- What is written under a path is read there. -/
theorem read_of_write {folder folder' : Folder} {path text : String}
    (h : folder.write path text = some folder') : folder'.read path = .ok text := by
  obtain ⟨before, last, entries, hsteps, hbefore, hfind, ⟨hpath, hempty, hup⟩, rfl⟩ :=
    exists_of_write h
  simp only [read, find, if_neg hpath, hsteps] at hfind ⊢
  obtain ⟨names, outer, _, _, hstands, -, hrest⟩ :=
    exists_stands_of_follow (fun _ entries h => ⟨entries, h⟩) .root .root hbefore
  obtain ⟨hfollow, -, hsettle⟩ := hrest [last]
  have hname : IsName last := by
    refine ⟨hempty, fun hdot => ?_, hup⟩
    rw [hfollow, hdot] at hfind
    exact hfind entries rfl
  generalize htarget : settle [] (before ++ [last]) = target at hsettle ⊢
  -- The place of the file is not that of a folder, so every folder is kept.
  have hplace (found : Folder) : (FolderEntry.folder folder).at? target ≠ some (.folder found) := by
    rw [hsettle, settle_name hname, FolderEntry.at?_append, hstands.at?_eq, Option.bind_some,
      FolderEntry.at?_singleton, ne_eq, ← follow_name_eq_ok_iff hname, ← hfollow]
    exact hfind found
  obtain ⟨names', _, outer', entries', -, hstands', hrest'⟩ :=
    exists_stands_of_follow (fun _ _ => exists_at?_putAt (.file text.toUTF8) hplace) .root .root
      hbefore
  obtain ⟨-, hfollow', hsettle'⟩ := hrest' [last]
  rw [htarget, settle_name hname] at hsettle'
  have hput := at?_putAt folder (.file text.toUTF8)
    (show target ≠ [] from hsettle' ▸ List.concat_ne_nil last names'.reverse)
  rw [hsettle', FolderEntry.at?_append, ← hsettle', hstands'.at?_eq, Option.bind_some,
    FolderEntry.at?_singleton, ← follow_name_eq_ok_iff hname, ← hfollow'] at hput
  rw [hput]
  exact decodeText_toUTF8 text

end Folder

end CombatContent
