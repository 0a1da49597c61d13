import CombatContent.Proofs.Content.Drafts
import CombatContent.Proofs.Weapons.Descent

/-!
# Ids of weapons as paths

The id of a weapon is the path of its keys, joined by dots. Where no key has a dot, the id is cut
into the keys again, so that it leads back to the node of the weapon. Weapons at different paths
share an id only if some key on one of the paths has a dot, and then the audit fails: both come
under one id in its report, whether they are typed or not.

## Main definitions

* `Draft.keysOfId`: an id cut at its dots.

## Main results

* `Draft.keysOfId_pathId`: paths without dots in their keys are read back from their ids.
* `Draft.LeadsToRecord.at?_keysOfId`, `Draft.FindsRecords.exists_dot`: ids of records.
* `Audit.status_run_of_not_nodup`: ids that come twice in a dataset.
* `Draft.weaponIds_identify`: what the ids of the weapons of a document tell.
-/

namespace CombatContent

namespace Audit

/-- The audit fails if two drafts of an audited dataset have the same id. -/
theorem status_run_of_not_nodup {document : Tree} {d : Dataset} (hd : d ∈ Dataset.audited)
    (h : ¬ ((Draft.ofDocument document d).map Draft.id).Nodup) :
    (run (Content.ofDocument document)).status = .failed := by
  rw [status_run_eq_failed_iff]
  by_cases hm : (Content.ofDocument document).malformed = []
  · -- Without malformed records all drafts are typed, each under its id.
    have hfault : ∀ draft ∈ Draft.ofDocument document d,
        (Content.fault? d draft).isNone = true := by
      intro draft hdraft
      have hmalformed : Content.malformedIn document d = [] :=
        List.flatMap_eq_nil_iff.mp hm d (Dataset.mem_all d)
      rw [Content.malformedIn_eq_filterMap, List.filterMap_eq_nil_iff] at hmalformed
      rw [Option.isNone_iff_eq_none]
      exact Option.map_eq_none_iff.mp (hmalformed draft hdraft)
    refine .repeatedId hd ?_
    rwa [Content.ids_ofDocument, List.filter_eq_self.mpr hfault]
  · exact .malformed hm

end Audit

namespace Draft

variable {document node : Tree} {weapons : Members} {found : List (List String × Tree)}
  {p q path : List String}

/-- The keys that an id has between its dots. -/
def keysOfId (id : String) : List String := (id.split '.').toList.map String.Slice.copy

/-- A path without dots in its keys is read back from its id. -/
theorem keysOfId_pathId (hne : p ≠ []) (h : ∀ key ∈ p, '.' ∉ key.toList) :
    keysOfId (pathId p) = p := by
  have hsplit := String.toList_split_intercalate h
  rwa [if_neg hne] at hsplit

/-- Some key on one of two paths has a dot if the paths are different and their ids are not. -/
theorem exists_dot_mem_of_pathId_eq (hp : p ≠ []) (hq : q ≠ []) (hne : p ≠ q)
    (h : pathId p = pathId q) : ∃ key ∈ p ++ q, '.' ∈ key.toList := by
  by_contra hnone
  push Not at hnone
  obtain ⟨hp', hq'⟩ := List.forall_mem_append.mp hnone
  exact hne (by rw [← keysOfId_pathId hp hp', h, keysOfId_pathId hq hq'])

/-- The keys that its id has between its dots lead to a record, if no key on its path has a dot. -/
theorem LeadsToRecord.at?_keysOfId (h : LeadsToRecord weapons path node)
    (hdots : ∀ key ∈ path, '.' ∉ key.toList) :
    keysOfId (pathId path) = path ∧
      (Tree.map weapons).at? (keysOfId (pathId path)) = some node := by
  have hkeys := keysOfId_pathId h.ne_nil hdots
  exact ⟨hkeys, hkeys.symm ▸ h.reaches⟩

/-- Of two records with one id, some key on one of the paths has a dot. -/
theorem FindsRecords.exists_dot (h : FindsRecords weapons found) :
    found.Pairwise fun a b =>
      pathId a.1 = pathId b.1 → ∃ key ∈ a.1 ++ b.1, '.' ∈ key.toList := by
  have hne : found.Pairwise fun a b => a.1 ≠ b.1 := List.pairwise_map.mp h.nodup
  refine hne.imp_of_mem fun {a b} ha hb hab hid => ?_
  have hpath := ((h.mem_iff a.1 a.2).mp ha).ne_nil
  have hpath' := ((h.mem_iff b.1 b.2).mp hb).ne_nil
  exact exists_dot_mem_of_pathId_eq hpath hpath' hab hid

/-- The weapons of a document are identified by their ids, unless a key has a dot. Where no key on
the path of a weapon has one, the keys that its id has between its dots lead from the map of weapons
to the node of the weapon. Of two weapons with one id, some key on one of the paths has a dot. And
where two weapons have one id, the audit fails. -/
theorem weaponIds_identify (h : document.HasDistinctKeys) :
    let weapons := membersAt document "weapons"
    ofDocument document .weapons = (placedWeapons document).map (fun p => ⟨pathId p.1, p.2⟩) ∧
      (∀ path node, (path, node) ∈ placedWeapons document →
        (Tree.map weapons).at? path = some node ∧
        ((∀ key ∈ path, '.' ∉ key.toList) →
          keysOfId (pathId path) = path ∧
            (Tree.map weapons).at? (keysOfId (pathId path)) = some node)) ∧
      (placedWeapons document).Pairwise (fun a b =>
        pathId a.1 = pathId b.1 → ∃ key ∈ a.1 ++ b.1, '.' ∈ key.toList) ∧
      (¬ ((ofDocument document .weapons).map Draft.id).Nodup →
        (Audit.run (Content.ofDocument document)).status = .failed) := by
  intro weapons
  have hfinds : FindsRecords weapons (placedWeapons document) := findsRecords_placedWeapons h
  refine ⟨rfl, fun path node hmem => ?_, hfinds.exists_dot,
    Audit.status_run_of_not_nodup (by decide)⟩
  have hleads := (hfinds.mem_iff path node).mp hmem
  exact ⟨hleads.reaches, hleads.at?_keysOfId⟩

/-- Two swords with one id, and an axe under keys without dots, one of them empty. -/
def dottedRack : Members := [
  ("swords.long", .map [("knightly", .map [("name", .text "Knightly Sword")])]),
  ("swords", .map [("long.knightly", .map [("name", .integer 1)])]),
  ("axes", .map [("", .map [("bearded", .map [("name", .text "Bearded Axe")])])])]

theorem weaponIds_identify_dottedRack :
    let document := Tree.map [("weapons", .map dottedRack)]
    document.HasDistinctKeys ∧
      (ofDocument document .weapons).map Draft.id =
        ["swords.long.knightly", "swords.long.knightly", "axes..bearded"] ∧
      (Tree.map dottedRack).at? (keysOfId "axes..bearded") =
        some (.map [("name", .text "Bearded Axe")]) ∧
      (Audit.run (Content.ofDocument document)).status = .failed := by
  intro document
  have hdistinct : document.HasDistinctKeys := by
    simp [document, dottedRack, Members.keys, Tree.HasDistinctKeys, Tree.MembersHaveDistinctKeys]
  have hids : (ofDocument document .weapons).map Draft.id =
      ["swords.long.knightly", "swords.long.knightly", "axes..bearded"] := by decide +kernel
  have haxe : (["axes", "", "bearded"], Tree.map [("name", .text "Bearded Axe")]) ∈
      placedWeapons document :=
    .tail _ (.tail _ (.head _))
  obtain ⟨-, hpaths, -, hfailed⟩ := weaponIds_identify hdistinct
  refine ⟨hdistinct, hids, ?_, hfailed (by rw [hids]; decide)⟩
  exact ((hpaths _ _ haxe).2 (by decide)).2

end Draft

end CombatContent
