import CombatContent.Proofs.Zig.Columns
import Mathlib.Data.List.Infix

/-!
# The lines of a generated file

A generated file is its heading, and then its sections with an empty line between two of them. The
section of a table opens with the declaration of its types and has the rows of the table one after
the other. A row stands between braces on lines of their own. What it says under a name on one line
is a line of it, and what it says on several lines is a part of its lines.

## Main definitions

* `Zig.fieldLine`, `Zig.rowLines`, `Zig.tableLines`, `Zig.fileLines`: a file as its lines.
* `Zig.IsPrinted`: lines that stand in the file.

## Main results

* `Zig.render_eq_unlines`: a generated file consists of its lines.
* `Zig.fieldLine_mem_entryLines`, `Zig.entryLines_infix_entryLines`: the lines under a name.
* `Zig.isPrinted_of_mem`: the rows of every section are printed.
-/

namespace CombatContent.Zig

open Text

/-! ### Lines -/

/-- The line of a field at a depth, four blanks for each step. -/
def fieldLine (depth : Nat) (name text : String) : String :=
  "".pushn ' ' (4 * depth) ++ "." ++ name ++ " = " ++ text ++ ","

/-- The lines of a row. -/
def rowLines (row : Row) : List String :=
  "    .\x7b" :: (entryLines 2 row ++ ["    \x7d,"])

/-- The lines in front of the rows of a table. -/
def openingLines (t : Table) : List String :=
  t.declaration ++ ["", "pub const " ++ t.name ++ " = [_]" ++ t.rowType ++ "\x7b"]

/-- The lines of a section, given those in front and those of each row. -/
def sectionLines (opening : List String) (rows : List (List String)) : List String :=
  opening ++ rows.flatten ++ ["\x7d;"]

/-- The lines of the section of a table. -/
def tableLines (t : Table) : List String :=
  sectionLines (openingLines t) (t.rows.map rowLines)

/-- The lines of a file, given the ids of its enumeration and the lines of the sections of its
tables. An enumeration without ids is left out, and an empty line parts two sections. -/
def fileLines (ids : NameSet) (tableSections : List (List String)) : List String :=
  let sections := if ids.isEmpty then tableSections else techniqueIdLines ids :: tableSections
  heading ++ if sections.isEmpty then [noDataLine] else [""].intercalate sections

/-- Lines stand in the file, next to each other, whatever technique ids it enumerates. -/
def IsPrinted (c : Content) (ls : List String) : Prop :=
  ∀ ids, ∃ before after, render c ids = unlines (before ++ ls ++ after)

variable {c : Content} {row : Row} {name : String} {ls ls' : List String}

/-! ### The text of lines -/

/-- Texts of lines with an empty line between them. -/
theorem intercalate_map_unlines (parts : List (List String)) :
    "\n".intercalate (parts.map unlines) = unlines ([""].intercalate parts) := by
  induction parts with
  | nil => rfl
  | cons ls parts ih =>
    cases parts with
    | nil => simp
    | cons ls' parts =>
      rw [List.map_cons, List.map_cons, String.intercalate_cons_cons, ← List.map_cons, ih,
        List.intercalate_cons_cons, unlines_append, unlines_append]
      rfl

theorem Table.lines_eq (t : Table) : t.lines = tableLines t := by
  have hrows : entryLines 1 (t.rows.map .row) = (t.rows.map rowLines).flatten := by
    rw [entryLines_eq_flatMap, List.flatMap_map, List.flatMap_def]
    rfl
  rw [lines, hrows, tableLines, sectionLines, openingLines]
  simp

/-- A generated file consists of its lines. -/
theorem render_eq_unlines (c : Content) (ids : NameSet) :
    render c ids = unlines (fileLines ids ((tables c).map tableLines)) := by
  have htext : Table.text = unlines ∘ tableLines :=
    funext fun t => congrArg unlines t.lines_eq
  have hsections : sections c ids = List.map unlines
      (if ids.isEmpty then (tables c).map tableLines
        else techniqueIdLines ids :: (tables c).map tableLines) := by
    rw [sections, htext, ← List.map_map]
    split <;> rfl
  rw [render, fileLines, hsections, unlines_append, List.isEmpty_map, intercalate_map_unlines,
    ← apply_ite unlines]

/-! ### What a row says -/

theorem fieldLine_eq (depth : Nat) (name text : String) :
    fieldLine depth name text = indented depth (fieldText name text ++ ",") := by
  rw [fieldLine, indented, fieldText]
  simp only [String.append_assoc]

/-- What a row says under a name on one line is a line of it. -/
theorem fieldLine_mem_entryLines {text : String} (h : row.text? name = some text) (depth : Nat) :
    fieldLine depth name text ∈ entryLines depth row := by
  obtain ⟨value, hvalue, rfl⟩ := Option.map_eq_some_iff.mp h
  obtain ⟨entry, hmem, hentry⟩ := List.exists_of_findSome?_eq_some hvalue
  rw [entryLines_eq_flatMap, fieldLine_eq]
  refine List.mem_flatMap_of_mem hmem ?_
  cases entry with
  | field n v =>
    simp only [Option.ite_none_right_eq_some, Option.some.injEq] at hentry
    obtain ⟨rfl, rfl⟩ := hentry
    exact List.mem_singleton_self _
  | item | record | slice | row => exact absurd hentry (by simp)

/-- The lines of an entry are among those of the entries. -/
theorem lines_infix_entryLines {e : Entry} {es : List Entry} (he : e ∈ es) (depth : Nat) :
    e.lines depth <:+: entryLines depth es := by
  obtain ⟨before, after, rfl⟩ := List.append_of_mem he
  rw [entryLines_eq_flatMap, List.flatMap_append, List.flatMap_cons, ← List.append_assoc]
  exact ⟨_, _, rfl⟩

/-- What a row says under a name on several lines is written one step further in. -/
theorem entryLines_infix_entryLines {es : List Entry} (h : row.entries? name = some es)
    (depth : Nat) : entryLines (depth + 1) es <:+: entryLines depth row := by
  obtain ⟨e, he, hentries⟩ := List.exists_of_findSome?_eq_some h
  have hlines : entryLines (depth + 1) es <:+: e.lines depth := by
    cases e with
    | record n es' | slice n es' =>
      obtain ⟨rfl, rfl⟩ : n = name ∧ es' = es := by simpa using hentries
      exact ⟨[_], [_], rfl⟩
    | _ => exact absurd hentries (by simp)
  exact hlines.trans (lines_infix_entryLines he depth)

/-! ### Rows in the file -/

theorem IsPrinted.mono (h : IsPrinted c ls) (hsub : ls' <:+: ls) : IsPrinted c ls' := by
  intro ids
  obtain ⟨before, after, htext⟩ := h ids
  obtain ⟨front, back, rfl⟩ := hsub
  exact ⟨before ++ front, back ++ after, by simpa only [List.append_assoc] using htext⟩

theorem infix_intercalate {α : Type} {sep part : List α} {parts : List (List α)}
    (h : part ∈ parts) : part <:+: sep.intercalate parts := by
  induction parts with
  | nil => exact absurd h List.not_mem_nil
  | cons p ps ih =>
    cases ps with
    | nil => rw [List.mem_singleton.mp h, List.intercalate_singleton]
    | cons p' ps =>
      rw [List.intercalate_cons_cons]
      rcases List.mem_cons.mp h with rfl | hps
      · rw [List.append_assoc]
        exact (List.prefix_append _ _).isInfix
      · exact (ih hps).trans (List.suffix_append _ _).isInfix

/-- The rows of every section are printed. -/
theorem isPrinted_of_mem {t : Table} (ht : t ∈ tables c) (hrow : row ∈ t.rows) :
    IsPrinted c (rowLines row) := by
  intro ids
  have hsection : rowLines row <:+: tableLines t :=
    (List.infix_of_mem_flatten (List.mem_map_of_mem hrow)).trans (List.infix_append _ _ _)
  have hparts {parts : List (List String)} (hmem : tableLines t ∈ parts) :
      rowLines row <:+:
        heading ++ if parts.isEmpty then [noDataLine] else [""].intercalate parts := by
    rw [if_neg (by simpa using List.ne_nil_of_mem hmem)]
    exact (hsection.trans (infix_intercalate hmem)).trans (List.suffix_append _ _).isInfix
  have hfile : rowLines row <:+: fileLines ids ((tables c).map tableLines) := by
    have hmem : tableLines t ∈ (tables c).map tableLines := List.mem_map_of_mem ht
    refine hparts ?_
    split
    · exact hmem
    · exact List.mem_cons_of_mem _ hmem
  obtain ⟨before, after, heq⟩ := hfile
  exact ⟨before, after, by rw [render_eq_unlines, heq]⟩

end CombatContent.Zig
