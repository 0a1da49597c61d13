import CombatContent.Proofs.Enumeration.NameLines
import CombatContent.Proofs.Text.Parts
import CombatContent.Zig.Generated
import Mathlib.Data.Set.Finite.Lemmas

/-!
# Generated files read back

A generated file may be compared with itself: the ids that its enumeration declares are read back,
and content is generated again with them as the committed ones. The ids are those of the content
exactly if no id has a character that is escaped and none has a pair of slashes. An id that could be
escaped again is read as a longer one of that kind, and an id with a pair of slashes as one without,
so that no set of ids that has one of them is read as itself.

## Main definitions

* `Enumeration.IsLegible`: ids that are read as they are.

## Main results

* `Enumeration.blockLines_render`: the lines of the enumeration in a generated file.
* `Enumeration.read_render_eq_iff`: when the ids of a file are read as they are.
* `Enumeration.generate_read_back_iff`: when a file is generated again from its own ids.
-/

namespace CombatContent.Enumeration

open Text Zig

variable {c : Content} {ids : NameSet} {id : String}

/-! ### The block of a generated file -/

theorem newline_notMem_identifier (id : String) : '\n' ∉ (identifier id).toList := by
  cases h : isPlainIdentifier id with
  | true =>
    rw [toList_identifier_of_plain h]
    exact notMem_of_isWord (isWord_of_plain h) (by decide)
  | false =>
    rw [toList_identifier_of_not_plain h]
    simp [newline_notMem_escaped]

theorem newline_notMem_indented_identifier (id : String) :
    '\n' ∉ (indented 1 (identifier id ++ ",")).toList := by
  have hblanks : '\n' ∉ ("".pushn ' ' (4 * 1)).toList := by decide
  rw [indented, String.toList_append, String.toList_append, List.mem_append, List.mem_append]
  exact not_or.mpr ⟨hblanks, not_or.mpr ⟨newline_notMem_identifier id, by decide⟩⟩

theorem newline_notMem_techniqueIdLines : ∀ line ∈ techniqueIdLines ids, '\n' ∉ line.toList := by
  intro line hline
  rcases List.mem_cons.mp hline with rfl | hline
  · decide
  rcases List.mem_append.mp hline with hline | hline
  · obtain ⟨id, -, rfl⟩ := List.mem_map.mp hline
    exact newline_notMem_indented_identifier id
  · rw [List.mem_singleton.mp hline]
    decide

/-- A file with an enumeration has it right after the heading. -/
theorem exists_toList_render_eq (h : ids.isEmpty = false) :
    ∃ rest, (render c ids).toList =
      (unlines (heading ++ techniqueIdLines ids)).toList ++ rest := by
  have hsections : sections c ids = techniqueIdText ids :: (tables c).map Table.text := by
    rw [sections, h]
    rfl
  have hparts : ∃ rest, "\n".intercalate (techniqueIdText ids :: (tables c).map Table.text) =
      techniqueIdText ids ++ rest := by
    cases (tables c).map Table.text with
    | nil => exact ⟨"", by rw [String.intercalate_singleton, String.append_empty]⟩
    | cons part parts =>
      exact ⟨"\n" ++ "\n".intercalate (part :: parts), by
        rw [String.intercalate_cons_cons, String.append_assoc]⟩
  obtain ⟨rest, hrest⟩ := hparts
  refine ⟨rest.toList, ?_⟩
  rw [render, hsections, unlines_append, ← techniqueIdText, ← String.toList_append,
    String.append_assoc, ← hrest]
  rfl

theorem newline_notMem_heading : ∀ line ∈ heading, '\n' ∉ line.toList := by
  rw [heading]
  repeat refine List.forall_mem_cons.mpr ⟨feedFree_ofList (by decide), ?_⟩
  exact List.forall_mem_nil _

/-- The enumeration does not begin in the heading. -/
theorem not_begins_heading : ∀ line ∈ heading.map (trim ∘ String.toList),
    (!begins generatedFormat.blockStart line) = true := by decide

/-- The line of a name does not end the enumeration. -/
theorem not_begins_nameLine : ∀ line ∈ ids.toList.map nameLine,
    (!begins generatedFormat.blockEnd line) = true := by
  intro line hline
  obtain ⟨id, -, rfl⟩ := List.mem_map.mp hline
  obtain ⟨c, cs, hcs, -, -, hc⟩ := exists_nameLine_eq_cons id
  rw [hcs, begins]
  simp [generatedFormat, List.isPrefixOf, Ne.symm hc]

theorem map_trim_techniqueIdLines :
    (techniqueIdLines ids).map (trim ∘ String.toList) =
      trim "pub const GeneratedTechniqueID = enum \x7b".toList ::
        (ids.toList.map nameLine ++ [trim "\x7d;".toList]) := by
  have hids : ids.toList.map
      ((trim ∘ String.toList) ∘ fun id => indented 1 (identifier id ++ ",")) =
        ids.toList.map nameLine := by
    refine List.map_congr_left fun id _ => ?_
    rw [Function.comp_apply, Function.comp_apply, trim_indented_identifier]
  rw [techniqueIdLines, List.map_cons, List.map_append, List.map_map, hids, List.map_singleton,
    Function.comp_apply, Function.comp_apply]

/-- The block of a generated file has the line of every id, in order. -/
theorem blockLines_render (h : ids.isEmpty = false) :
    blockLines generatedFormat (render c ids).toList = ids.toList.map nameLine := by
  obtain ⟨rest, hrest⟩ := exists_toList_render_eq (c := c) h
  have hfeed : ∀ line ∈ heading ++ techniqueIdLines ids, '\n' ∉ line.toList := by
    intro line hline
    rcases List.mem_append.mp hline with hline | hline
    · exact newline_notMem_heading line hline
    · exact newline_notMem_techniqueIdLines line hline
  have hlines : (lines (render c ids).toList).map trim =
      heading.map (trim ∘ String.toList) ++
        (trim "pub const GeneratedTechniqueID = enum \x7b".toList ::
          (ids.toList.map nameLine ++ trim "\x7d;".toList :: (lines rest).map trim)) := by
    rw [hrest, lines_unlines_append hfeed, List.map_append, List.map_map, List.map_append,
      map_trim_techniqueIdLines, List.append_assoc, List.cons_append, List.append_assoc,
      List.singleton_append]
  rw [blockLines, hlines, List.dropWhile_append_of_pos not_begins_heading,
    List.dropWhile_cons_of_neg (by decide), List.tail_cons,
    List.takeWhile_append_of_pos not_begins_nameLine, List.takeWhile_cons_of_neg (by decide),
    List.append_nil]

/-- An id is read from a generated file if it stands on the line of a name and is not empty. -/
theorem mem_read_render (h : ids.isEmpty = false) {x : String} :
    x ∈ read generatedFormat (render c ids) ↔
      ∃ id ∈ ids, nameOn generatedFormat (nameLine id) ≠ [] ∧
        String.ofList (nameOn generatedFormat (nameLine id)) = x := by
  rw [read, NameSet.mem_ofList, blockLines_render h, List.filterMap_map, List.mem_filterMap]
  refine exists_congr fun id => and_congr_right fun _ => ?_
  rw [Function.comp_apply, idOn?_nameLine_eq]
  split
  · next hempty => simp [List.isEmpty_iff.mp hempty]
  · next hne => simp [mt List.isEmpty_iff.mpr hne]

/-! ### Ids that are read as they are -/

/-- No character of an id is escaped, and no pair of slashes stands in it. -/
def IsLegible (id : String) : Prop :=
  (∀ c ∈ id.toList, c ∉ escapedChars) ∧ ¬ ['/', '/'] <:+: id.toList

instance : DecidablePred IsLegible := fun id =>
  let _ : Decidable (∀ c ∈ id.toList, c ∉ escapedChars) := List.decidableBAll _ _
  inferInstanceAs (Decidable ((∀ c ∈ id.toList, c ∉ escapedChars) ∧ ¬ ['/', '/'] <:+: id.toList))

theorem nameOn_nameLine_of_isLegible (h : IsLegible id) :
    nameOn generatedFormat (nameLine id) = id.toList := by
  rw [nameOn_nameLine h.2, escaped_eq_self h.1]

/-- Where an id could be escaped again, one of them is the longest. -/
theorem exists_longest_isEscapable (h : ∃ id ∈ ids, IsEscapable id.toList) :
    ∃ id ∈ ids, IsEscapable id.toList ∧
      ∀ id' ∈ ids, IsEscapable id'.toList → id'.toList.length ≤ id.toList.length := by
  have hfinite : {id | id ∈ ids ∧ IsEscapable id.toList}.Finite :=
    (List.finite_toSet ids.toList).subset fun _ hid => hid.1
  obtain ⟨id, hid, hlongest⟩ :=
    Set.exists_max_image _ (fun id : String => id.toList.length) hfinite h
  exact ⟨id, hid.1, hid.2, fun id' hid' hescapable => hlongest id' ⟨hid', hescapable⟩⟩

/-- No id could be escaped again if the ids of a file are read as they are. -/
theorem not_isEscapable_of_read_eq (h : ids.isEmpty = false)
    (hread : read generatedFormat (render c ids) = ids) (hid : id ∈ ids) :
    ¬ IsEscapable id.toList := by
  intro hescapable
  obtain ⟨id, hid, ⟨hchar, hslashes⟩, hlongest⟩ := exists_longest_isEscapable ⟨id, hid, hescapable⟩
  have hlonger := length_lt_length_escaped hchar
  have hmem : String.ofList (escaped id.toList) ∈ ids := by
    rw [← hread, mem_read_render h]
    refine ⟨id, hid, ?_, by rw [nameOn_nameLine hslashes]⟩
    rw [nameOn_nameLine hslashes]
    exact List.ne_nil_of_length_pos (Nat.zero_lt_of_lt hlonger)
  have hle := hlongest _ hmem (by
    rw [String.toList_ofList]
    exact IsEscapable.escaped ⟨hchar, hslashes⟩)
  rw [String.toList_ofList] at hle
  omega

/-- The ids of a file are read as they are just if all of them are legible. -/
theorem read_render_eq_iff (h : ids.isEmpty = false) (hblank : "" ∉ ids) :
    read generatedFormat (render c ids) = ids ↔ ∀ id ∈ ids, IsLegible id := by
  constructor
  · intro hread id hid
    have hslashes : ¬ ['/', '/'] <:+: id.toList := by
      intro hslashes
      have hescapable := isEscapable_nameOn hslashes
      obtain ⟨d, hd, -⟩ := hescapable.1
      have hmem : String.ofList (nameOn generatedFormat (nameLine id)) ∈ ids := by
        rw [← hread, mem_read_render h]
        exact ⟨id, hid, List.ne_nil_of_mem hd, rfl⟩
      refine not_isEscapable_of_read_eq h hread hmem ?_
      rwa [String.toList_ofList]
    exact ⟨fun d hd hmem => not_isEscapable_of_read_eq h hread hid ⟨⟨d, hd, hmem⟩, hslashes⟩,
      hslashes⟩
  · intro hlegible
    ext x
    rw [mem_read_render h]
    constructor
    · rintro ⟨id, hid, -, rfl⟩
      rwa [nameOn_nameLine_of_isLegible (hlegible id hid), String.ofList_toList]
    · intro hx
      refine ⟨x, hx, ?_⟩
      rw [nameOn_nameLine_of_isLegible (hlegible x hx), String.ofList_toList]
      refine ⟨fun hnil => hblank ?_, rfl⟩
      rwa [← String.toList_eq_nil_iff.mp hnil]

/-! ### Generating again -/

theorem generate_some_eq_ok_iff (hm : c.malformed = []) (h : c.techniqueIds.isEmpty = false)
    {committed : NameSet} :
    generate c (some committed) = .ok (render c c.techniqueIds) ↔ committed = c.techniqueIds := by
  simp [generate_eq_ok_iff, hm, h]

theorem empty_notMem_techniqueIds : "" ∉ c.techniqueIds := by
  simp [Content.techniqueIds]

/-- A document without malformed records and with ids of techniques is generated. The ids that its
file declares are those of its techniques just if all of these are legible, and just then the file
is generated again with the declared ids as the committed ones. -/
theorem generate_read_back_iff (document : Tree)
    (hm : (Content.ofDocument document).malformed = [])
    (h : (Content.ofDocument document).techniqueIds.isEmpty = false) :
    let c := Content.ofDocument document
    ∃ text, generate c none = .ok text ∧
      (read generatedFormat text = c.techniqueIds ↔ ∀ id ∈ c.techniqueIds, IsLegible id) ∧
      (generate c (some (read generatedFormat text)) = .ok text ↔
        ∀ id ∈ c.techniqueIds, IsLegible id) := by
  intro c
  have hread : read generatedFormat (render c c.techniqueIds) = c.techniqueIds ↔
      ∀ id ∈ c.techniqueIds, IsLegible id := read_render_eq_iff h empty_notMem_techniqueIds
  refine ⟨render c c.techniqueIds, ?_, hread, ?_⟩
  · rw [generate, hm]
    rfl
  · rw [generate_some_eq_ok_iff hm h, hread]

/-- A document of one technique. -/
def techniqueDocument (id : String) : Tree :=
  .map [("techniques", .map [(id, .map [("name", .text "Bash")])])]

/-- A hyphen is read back, but a quote is not. -/
theorem generate_read_back_techniqueDocument :
    (let c := Content.ofDocument (techniqueDocument "shield-bash");
      c.malformed = [] ∧ c.techniqueIds.isEmpty = false ∧ ∃ text, generate c none = .ok text ∧
        read generatedFormat text = c.techniqueIds ∧
        generate c (some (read generatedFormat text)) = .ok text) ∧
    (let c := Content.ofDocument (techniqueDocument "shield\"bash");
      c.malformed = [] ∧ c.techniqueIds.isEmpty = false ∧ ∃ text, generate c none = .ok text ∧
        read generatedFormat text ≠ c.techniqueIds ∧
        generate c (some (read generatedFormat text)) ≠ .ok text) := by
  constructor
  · intro c
    have hm : c.malformed = [] := List.isEmpty_iff.mp (by decide +kernel)
    have h : c.techniqueIds.isEmpty = false := by decide +kernel
    have hlegible : ∀ id ∈ c.techniqueIds.toList, IsLegible id := by decide +kernel
    obtain ⟨text, htext, hread, hagain⟩ := generate_read_back_iff _ hm h
    exact ⟨hm, h, text, htext, hread.mpr hlegible, hagain.mpr hlegible⟩
  · intro c
    have hm : c.malformed = [] := List.isEmpty_iff.mp (by decide +kernel)
    have h : c.techniqueIds.isEmpty = false := by decide +kernel
    have hlegible : ¬ ∀ id ∈ c.techniqueIds.toList, IsLegible id := by decide +kernel
    obtain ⟨text, htext, hread, hagain⟩ := generate_read_back_iff _ hm h
    exact ⟨hm, h, text, htext, mt hread.mp hlegible, mt hagain.mp hlegible⟩

end CombatContent.Enumeration
