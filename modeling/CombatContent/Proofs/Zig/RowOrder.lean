import CombatContent.Proofs.Content.Splitting
import CombatContent.Proofs.Reordering.Drafts
import CombatContent.Proofs.Zig.Columns
import CombatContent.Proofs.Zig.FileLines
import Mathlib.Data.List.Permutation

/-!
# The order of rows

Every typed record has one row in the table of its dataset. Weapons and techniques have their rows
in the order of the drafts. The other six tables are sorted by id, and records of one id have their
rows in the order in which the document gives them. For tissue templates, body plans and species it
is the table that sorts the records. Armour and combat tests are sorted as drafts, and typing leaves
out those that are malformed but keeps the order of the rest. The file has one section for every
dataset with records, and the lines of a section are those of its rows.

## Main definitions

* `IsStableSort`: things sorted by name, with those of one name in the order in which they came.
* `Draft.inDocumentOrder`: the drafts of a dataset in the order of the document.
* `Dataset.sortedById`: the datasets whose tables are sorted.
* `Zig.recordLines`, `Zig.datasetLines`: the lines of the row of a record, and of a section of such
  rows.
* `Zig.IsRowOrder`: the typed records of a document in the order of their rows.

## Main results

* `isStableSort_sortedBy`, `IsStableSort.filterMap`: sorting is stable, and what is picked from
  sorted things in order is sorted.
* `Zig.isStableSort_records`: the records of a sorted table.
* `Zig.tableLines_tableOf`: the lines of a table whose rows are those of certain records.
* `Zig.rows_sorted_and_complete`: the lines of the file of a document.
-/

namespace CombatContent

variable {α β : Type} {name : α → String} {xs ys : List α}

/-! ### Stable sorting -/

/-- Things sorted by name: all of them, in ascending order of names, and those of one name in the
order in which they came. -/
structure IsStableSort (name : α → String) (xs ys : List α) : Prop where
  perm : ys.Perm xs
  ascending : ys.Pairwise fun a b => name a ≤ name b
  stable : ∀ n, (ys.filter fun y => name y = n) = xs.filter fun x => name x = n

/-- Sorting keeps the order of things of one name. -/
theorem filter_sortedBy (name : α → String) (xs : List α) (n : String) :
    ((sortedBy name xs).filter fun x => name x = n) = xs.filter fun x => name x = n := by
  have hnames : ∀ x ∈ xs.filter fun x => name x = n, name x = n := fun x hx => by
    simpa using (List.mem_filter.mp hx).2
  have hequal : (xs.filter fun x => name x = n).Pairwise fun a b => name a ≤ name b :=
    List.pairwise_of_forall_mem_list fun a ha b hb => (hnames a ha).trans_le (hnames b hb).ge
  have hsub := (sublist_sortedBy name hequal List.filter_sublist).filter fun x => name x = n
  rw [List.filter_filter] at hsub
  simp only [Bool.and_self] at hsub
  exact (hsub.eq_of_length ((perm_sortedBy name xs).filter _).length_eq.symm).symm

theorem isStableSort_sortedBy (name : α → String) (xs : List α) :
    IsStableSort name xs (sortedBy name xs) where
  perm := perm_sortedBy name xs
  ascending := pairwise_sortedBy name xs
  stable := filter_sortedBy name xs

/-- What is picked, in order and with its name, from sorted things is sorted. -/
theorem IsStableSort.filterMap {name' : β → String} {f : α → Option β}
    (h : IsStableSort name xs ys) (hf : ∀ a, ∀ b ∈ f a, name' b = name a) :
    IsStableSort name' (xs.filterMap f) (ys.filterMap f) where
  perm := h.perm.filterMap f
  ascending := by
    rw [List.pairwise_filterMap]
    refine h.ascending.imp fun hle b hb b' hb' => ?_
    rwa [hf _ b hb, hf _ b' hb']
  stable n := by
    have hpick (zs : List α) : ((zs.filterMap f).filter fun b => name' b = n) =
        (zs.filter fun a => name a = n).filterMap f := by
      rw [List.filter_filterMap, List.filterMap_filter]
      refine List.filterMap_congr fun a _ => ?_
      cases hb : f a with
      | none => simp
      | some b => simp [Option.filter, hf a b hb]
    rw [hpick, hpick, h.stable]

/-! ### Drafts in document order -/

/-- The drafts of a dataset in the order in which the document gives them. -/
def Draft.inDocumentOrder (document : Tree) : Dataset → List Draft
  | .weapons => ofCategories (membersAt document "weapons")
  | .techniques => (membersAt document "techniques").filterMap keyed?
  | .armourMaterials => (armourMaterialMembers document).filterMap named?
  | .armourPieces => (membersAt document "armour_pieces").filterMap identified?
  | .tissueTemplates => (membersAt document "tissue_templates").map fun m => ⟨m.1, m.2⟩
  | .bodyPlans => (membersAt document "body_plans").map fun m => ⟨m.1, m.2⟩
  | .species => (membersAt document "species").filterMap keyed?
  | .combatTests => (membersAt document "combat_tests").filterMap identified?

/-- The datasets whose tables are sorted by id. -/
def Dataset.sortedById : List Dataset :=
  [.tissueTemplates, .bodyPlans, .species, .armourMaterials, .armourPieces, .combatTests]

/-- The drafts of a dataset are those in document order, some of them in another order. -/
theorem Draft.inDocumentOrder_perm (document : Tree) (d : Dataset) :
    (inDocumentOrder document d).Perm (ofDocument document d) := by
  cases d with
  | techniques | species => rw [ofDocument, ofKeyed_eq_filterMap]; rfl
  | armourMaterials =>
    rw [ofDocument, ofNamed_eq_sortedBy]
    exact (perm_sortedBy ..).symm
  | armourPieces | combatTests => exact (perm_sortedBy ..).symm
  | _ => rfl

/-- The typed records of sorted drafts are sorted. -/
theorem IsStableSort.records {read : Typing.Reader α} {ds es : List Draft}
    (h : IsStableSort Draft.id ds es) :
    IsStableSort Record.id (Draft.records read ds) (Draft.records read es) := by
  refine h.filterMap fun d r hr => ?_
  split at hr
  · next htyped =>
    obtain rfl := Option.mem_some.mp hr
    exact Draft.id_of_typed_eq_ok read htyped
  · exact absurd hr (by simp)

namespace Zig

/-- The row of a record of a dataset. -/
def rowOf : (d : Dataset) → Record d.Data → Row
  | .weapons => weaponRow
  | .techniques => techniqueRow
  | .armourMaterials => armourMaterialRow
  | .armourPieces => armourPieceRow
  | .tissueTemplates => tissueTemplateRow
  | .bodyPlans => bodyPlanRow
  | .species => speciesRow
  | .combatTests => combatTestRow

variable {document : Tree} {d : Dataset}

theorem text?_rowOf (d : Dataset) (r : Record d.Data) : (rowOf d r).text? "id" = written r.id := by
  cases d <;> rfl

/-- The rows of a sorted table are those of the records of the dataset, sorted by id from the order
of the document. -/
theorem isStableSort_records (hd : d ∈ Dataset.sortedById) (document : Tree) :
    ∃ rs, (tableOf (Content.ofDocument document) d).rows = rs.map (rowOf d) ∧
      IsStableSort Record.id (Draft.records d.reader (Draft.inDocumentOrder document d)) rs := by
  have hdrafts {ms : Members} {f : String × Tree → Option Draft} :
      IsStableSort Draft.id (ms.filterMap f) (sortedBy Draft.id (ms.filterMap f)) :=
    isStableSort_sortedBy ..
  cases d with
  | tissueTemplates | bodyPlans => exact ⟨_, rfl, isStableSort_sortedBy ..⟩
  | species =>
    refine ⟨_, rfl, ?_⟩
    rw [Draft.inDocumentOrder, ← Draft.ofKeyed_eq_filterMap]
    exact isStableSort_sortedBy ..
  | armourMaterials =>
    refine ⟨_, rfl, IsStableSort.records ?_⟩
    rw [Draft.ofDocument, Draft.ofNamed_eq_sortedBy]
    exact hdrafts
  | armourPieces | combatTests => exact ⟨_, rfl, hdrafts.records⟩
  | weapons | techniques => exact absurd hd (by decide)

/-! ### Rows of a file -/

/-- The lines of the row of a record. The first of them between the braces has its id. -/
def recordLines (d : Dataset) (r : Record d.Data) : List String :=
  "    .\x7b" :: ("        .id = " ++ quoted r.id ++ ",") ::
    (entryLines 2 (rowOf d r).tail ++ ["    \x7d,"])

/-- The lines of the section of a dataset that shows certain records. -/
def datasetLines (d : Dataset) (rs : List (Record d.Data)) : List String :=
  sectionLines (openingLines (tableOf {} d)) (rs.map (recordLines d))

theorem rowLines_rowOf (d : Dataset) (r : Record d.Data) :
    rowLines (rowOf d r) = recordLines d r := by
  have hid : indented 2 (fieldText "id" (quoted r.id) ++ ",") =
      "        .id = " ++ quoted r.id ++ "," := by
    have hfront : "".pushn ' ' 8 ++ "." ++ "id" ++ " = " = "        .id = " := by decide
    rw [indented, fieldText, ← hfront]
    simp only [String.append_assoc]
  rw [recordLines, ← hid]
  cases d <;> rfl

/-- The lines of a table are those of the records that its rows are of. -/
theorem tableLines_tableOf {c : Content} {rs : List (Record d.Data)}
    (h : (tableOf c d).rows = rs.map (rowOf d)) : tableLines (tableOf c d) = datasetLines d rs := by
  have hopening : openingLines (tableOf c d) = openingLines (tableOf {} d) := by cases d <;> rfl
  rw [tableLines, hopening, h, List.map_map, datasetLines]
  congr 1
  exact List.map_congr_left fun r _ => rowLines_rowOf d r

/-- A list of records for each dataset in which every typed record of a document comes once. Those
of a sorted table are in ascending order of ids, and those of one id in the order of the document.
Weapons and techniques are in the order of their drafts. -/
structure IsRowOrder (document : Tree) (shown : (d : Dataset) → List (Record d.Data)) : Prop where
  complete : ∀ d, (shown d).Perm ((Content.ofDocument document).recordsOf d)
  sorted : ∀ d ∈ Dataset.sortedById,
    IsStableSort Record.id (Draft.records d.reader (Draft.inDocumentOrder document d)) (shown d)
  flattened : ∀ d, d ∉ Dataset.sortedById →
    shown d = Draft.records d.reader (Draft.ofDocument document d)

theorem exists_isRowOrder (document : Tree) :
    ∃ shown, IsRowOrder document shown ∧
      ∀ d, (tableOf (Content.ofDocument document) d).rows = (shown d).map (rowOf d) := by
  have hshown (d : Dataset) : ∃ rs : List (Record d.Data),
      (tableOf (Content.ofDocument document) d).rows = rs.map (rowOf d) ∧
      rs.Perm ((Content.ofDocument document).recordsOf d) ∧
      (d ∈ Dataset.sortedById → IsStableSort Record.id
        (Draft.records d.reader (Draft.inDocumentOrder document d)) rs) ∧
      (d ∉ Dataset.sortedById → rs = Draft.records d.reader (Draft.ofDocument document d)) := by
    rw [Content.recordsOf_ofDocument]
    by_cases hd : d ∈ Dataset.sortedById
    · obtain ⟨rs, hrows, hsort⟩ := isStableSort_records hd document
      have htyped : (Draft.records d.reader (Draft.inDocumentOrder document d)).Perm
          (Draft.records d.reader (Draft.ofDocument document d)) :=
        (Draft.inDocumentOrder_perm document d).filterMap _
      exact ⟨rs, hrows, hsort.perm.trans htyped, fun _ => hsort, fun hnot => absurd hd hnot⟩
    · refine ⟨_, ?_, .refl _, fun hmem => absurd hmem hd, fun _ => rfl⟩
      rw [← Content.recordsOf_ofDocument]
      cases d with
      | weapons | techniques => rfl
      | _ => exact absurd (by decide) hd
  choose shown hrows hcomplete hsorted hflattened using hshown
  exact ⟨shown, ⟨hcomplete, hsorted, hflattened⟩, hrows⟩

/-- The file of a document shows its typed records dataset by dataset. There is one section for
every dataset that has records, and the lines of the section are those of the rows of the records,
each of which comes once. The sorted tables are in ascending order of ids, with the records of one
id in the order of the document, and weapons and techniques are in the order of their drafts. -/
theorem rows_sorted_and_complete (document : Tree) :
    let c := Content.ofDocument document
    ∃ shown : (d : Dataset) → List (Record d.Data),
      IsRowOrder document shown ∧
      (∀ d, (tableOf c d).rows = (shown d).map (rowOf d)) ∧
      (∀ d r, (rowOf d r).text? "id" = written r.id) ∧
      (sectionOrder.Nodup ∧ ∀ d, d ∈ sectionOrder) ∧
      ∀ ids, render c ids = Text.unlines (fileLines ids
        ((sectionOrder.filter fun d => !(shown d).isEmpty).map fun d =>
          datasetLines d (shown d))) := by
  intro c
  obtain ⟨shown, horder, hrows⟩ := exists_isRowOrder document
  refine ⟨shown, horder, hrows, text?_rowOf, ⟨by decide, ?_⟩, fun ids => ?_⟩
  · intro d
    cases d <;> decide
  have hcount (d : Dataset) : (c.count d != 0) = !(shown d).isEmpty := by
    rw [← Content.length_recordsOf, ← (horder.complete d).length_eq]
    cases shown d <;> rfl
  have hlines (d : Dataset) : tableLines (tableOf c d) = datasetLines d (shown d) :=
    tableLines_tableOf (hrows d)
  rw [render_eq_unlines, tables, List.map_map]
  simp only [hcount, hlines, Function.comp_def]

/-- Two caps of one id that are given around a belt, and one more that cannot be typed. -/
def capDocument : Tree := .map [
  ("armour_pieces", .map [
    ("z", .map [("id", .text "cap"), ("name", .text "Felt Cap")]),
    ("m", .map [("id", .text "belt"), ("name", .text "Belt")]),
    ("b", .map [("id", .text "cap"), ("name", .integer 7)]),
    ("a", .map [("id", .text "cap"), ("name", .text "Wool Cap")])])]

theorem rows_sorted_and_complete_capDocument :
    let c := Content.ofDocument capDocument
    Dataset.armourPieces ∈ Dataset.sortedById ∧
      (tableOf c .armourPieces).column "name" =
        [written "Belt", written "Felt Cap", written "Wool Cap"] ∧
      ∃ pieces : List (Record ArmourPiece), pieces.map Record.id = ["belt", "cap", "cap"] ∧
        pieces.Perm c.armourPieces ∧
        (tableOf c .armourPieces).rows = pieces.map armourPieceRow ∧
        ∀ ids, render c ids =
          Text.unlines (fileLines ids [datasetLines .armourPieces pieces]) := by
  intro c
  obtain ⟨shown, horder, hrows, hid, -, hrender⟩ := rows_sorted_and_complete capDocument
  have hcolumn : (tableOf c .armourPieces).column "id" =
      ["belt", "cap", "cap"].map written := by cbv
  have hids : (shown .armourPieces).map Record.id = ["belt", "cap", "cap"] := by
    refine List.map_injective_iff.mpr written_injective ?_
    rw [← hcolumn, Table.column, hrows, List.map_map, List.map_map]
    exact List.map_congr_left fun r _ => (hid .armourPieces r).symm
  have hnone (d : Dataset) (hd : d ≠ .armourPieces) : shown d = [] := by
    have hdrafts : Draft.ofDocument capDocument d = [] := by
      cases d with
      | armourPieces => exact absurd rfl hd
      | _ => decide +kernel
    have hperm := horder.complete d
    rw [Content.recordsOf_ofDocument, hdrafts] at hperm
    exact hperm.eq_nil
  have hsections : (sectionOrder.filter fun d => !(shown d).isEmpty) = [.armourPieces] := by
    have hpieces : (shown .armourPieces).isEmpty = false := by
      rw [← List.isEmpty_map, hids]
      rfl
    simp [sectionOrder, hnone, hpieces]
  refine ⟨by decide, by cbv, shown .armourPieces, hids, horder.complete .armourPieces,
    hrows .armourPieces, fun ids => ?_⟩
  rw [hrender, hsections, List.map_singleton]

end Zig

end CombatContent
