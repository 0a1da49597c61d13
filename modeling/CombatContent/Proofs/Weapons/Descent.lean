import CombatContent.Proofs.Reordering.Drafts
import Mathlib.Data.List.Infix
import Mathlib.Data.List.Pairwise

/-!
# The descent to the weapons

The weapons of a document nest by category. On every path of keys that leads down from the map of
weapons, the first map with a `name` is a record, and the maps before it are categories. The descent
finds every record once, in the order of the document: where the paths of two records part, the
record whose member comes first in the category there comes first.

## Main definitions

* `Tree.at?`: the node at a path of keys.
* `Tree.Precedes`: the order of paths in a tree.
* `Draft.LeadsToRecord`: the paths from the map of weapons to its records.
* `Draft.FindsRecords`: a list of all records, each of them once and in order.
* `Draft.placedWeapons`: the weapons that the descent finds, with their paths.

## Main results

* `Draft.mem_namedBelow_iff`: the descent finds the records.
* `Draft.pairwise_precedes_namedBelow`: it finds them in the order of the document.
* `Draft.findsRecords_namedBelow`: both together.
* `Draft.weapons_ofDocument`: the drafts of the weapons of a document.
-/

namespace CombatContent

/-! ### Paths in a tree -/

namespace Tree

/-- The node at a path of keys, each of a member of the map at the keys before it. -/
def at? : Tree → List String → Option Tree
  | t, [] => some t
  | t, key :: path => (t.find? key).bind fun u => u.at? path

/-- One path comes before another in the order of a tree: they part in a map of the tree, where the
first goes on to a member that stands before that of the second. -/
def Precedes (t : Tree) (p q : List String) : Prop :=
  ∃ (shared : List String) (ms : Members) (key key' : String),
    t.at? shared = some (.map ms) ∧ [key, key'].Sublist ms.keys ∧
      shared ++ [key] <+: p ∧ shared ++ [key'] <+: q

variable {t u : Tree} {ms ns : Members} {key : String} {p q path : List String}

@[simp]
theorem at?_nil (t : Tree) : t.at? [] = some t := rfl

theorem at?_map_cons (h : ms.find? key = some u) (path : List String) :
    (Tree.map ms).at? (key :: path) = u.at? path := by
  rw [at?, find?, members?, Option.bind_some, h, Option.bind_some]

theorem HasDistinctKeys.of_at? (h : t.HasDistinctKeys) (hu : t.at? path = some u) :
    u.HasDistinctKeys := by
  induction path generalizing t with
  | nil =>
    obtain rfl := Option.some.inj hu
    exact h
  | cons key path ih =>
    obtain ⟨t', hfind, hu⟩ := Option.bind_eq_some_iff.mp hu
    exact ih (h.of_find? hfind) hu

/-- Paths below a member are in the order that they have in its value. -/
theorem Precedes.cons (hfind : ms.find? key = some u) (h : u.Precedes p q) :
    (Tree.map ms).Precedes (key :: p) (key :: q) := by
  obtain ⟨shared, ns, before, after, hat, horder, hp, hq⟩ := h
  refine ⟨key :: shared, ns, before, after, (at?_map_cons hfind shared).trans hat, horder, ?_, ?_⟩
  · exact List.cons_prefix_cons.mpr ⟨rfl, hp⟩
  · exact List.cons_prefix_cons.mpr ⟨rfl, hq⟩

/-- Of two paths of which one comes before the other, neither goes on from the end of the other. -/
theorem Precedes.not_prefix (ht : t.HasDistinctKeys) (h : t.Precedes p q) :
    ¬ p <+: q ∧ ¬ q <+: p := by
  obtain ⟨shared, ms, before, after, hat, horder, hp, hq⟩ := h
  have hkeys := (hasDistinctKeys_map_iff.mp (ht.of_at? hat)).1
  have hne : before ≠ after := List.pairwise_iff_forall_sublist.mp hkeys horder
  have hparts (path : List String) (hp : shared ++ [before] <+: path)
      (hq : shared ++ [after] <+: path) : False := by
    have hprefix := List.prefix_of_prefix_length_le hp hq (by simp)
    have heq := hprefix.eq_of_length (by simp)
    exact hne (List.singleton_inj.mp (List.append_cancel_left heq))
  exact ⟨fun hpq => hparts q (hp.trans hpq) hq, fun hqp => hparts p hp (hq.trans hqp)⟩

end Tree

/-! ### Records and categories -/

namespace Draft

open CombatContent.Tree (hasDistinctKeys_map_iff)

/-- A record of a weapon is a map with a `name`, whatever that is. -/
def IsWeaponRecord (t : Tree) : Prop := ∃ ms : Members, t = .map ms ∧ ms.has "name" = true

/-- A category of weapons is a map without a `name`. -/
def IsWeaponCategory (t : Tree) : Prop := ∃ ms : Members, t = .map ms ∧ ms.has "name" = false

/-- A path of keys leads down from the map of weapons to a record: there is a record at its end, and
a category at every key before. Whether the map of weapons itself has a `name` does not matter. -/
structure LeadsToRecord (weapons : Members) (path : List String) (node : Tree) : Prop where
  ne_nil : path ≠ []
  reaches : (Tree.map weapons).at? path = some node
  record : IsWeaponRecord node
  categories : ∀ before, before ≠ [] → before <+: path → before ≠ path →
    ∃ t, (Tree.map weapons).at? before = some t ∧ IsWeaponCategory t

variable {document node : Tree} {weapons ms ns : Members} {key : String} {path rest : List String}

/-- A path to a record ends at its first key, or goes on from a category there. -/
theorem leadsToRecord_cons_iff :
    LeadsToRecord ms (key :: path) node ↔
      ∃ ns : Members, ms.find? key = some (.map ns) ∧
        (ns.has "name" = true ∧ path = [] ∧ node = .map ns ∨
          ns.has "name" = false ∧ LeadsToRecord ns path node) := by
  constructor
  · rintro ⟨-, hreaches, hrecord, hcategories⟩
    obtain ⟨t, hfind, hat⟩ := Option.bind_eq_some_iff.mp hreaches
    cases path with
    | nil =>
      obtain rfl := Option.some.inj hat
      obtain ⟨ns, rfl, hname⟩ := hrecord
      exact ⟨ns, hfind, .inl ⟨hname, rfl, rfl⟩⟩
    | cons key' path =>
      obtain ⟨t', hat', ns, rfl, hname⟩ := hcategories [key] (by simp)
        (List.cons_prefix_cons.mpr ⟨rfl, List.nil_prefix⟩) (by simp)
      obtain rfl : t = .map ns := Option.some.inj ((Tree.at?_map_cons hfind []).symm.trans hat')
      refine ⟨ns, hfind, .inr ⟨hname, List.cons_ne_nil _ _, hat, hrecord, ?_⟩⟩
      intro before hne hprefix hproper
      rw [← Tree.at?_map_cons hfind]
      exact hcategories (key :: before) (List.cons_ne_nil _ _)
        (List.cons_prefix_cons.mpr ⟨rfl, hprefix⟩) fun heq => hproper (List.cons.inj heq).2
  · rintro ⟨ns, hfind, ⟨hname, rfl, rfl⟩ | ⟨hname, -, hreaches, hrecord, hcategories⟩⟩
    · refine ⟨List.cons_ne_nil _ _, Tree.at?_map_cons hfind [], ⟨ns, rfl, hname⟩, ?_⟩
      intro before hne hprefix hproper
      obtain hnil | heq := List.prefix_concat_iff.mp (show before <+: [] ++ [key] from hprefix)
      · exact absurd hnil hproper
      · exact absurd (List.prefix_nil.mp heq) hne
    · refine ⟨List.cons_ne_nil _ _, (Tree.at?_map_cons hfind path).trans hreaches, hrecord, ?_⟩
      intro before hne hprefix hproper
      obtain ⟨key', before, rfl⟩ := List.exists_cons_of_ne_nil hne
      obtain ⟨rfl, htail⟩ := List.cons_prefix_cons.mp hprefix
      rw [Tree.at?_map_cons hfind]
      by_cases hbefore : before = []
      · exact ⟨.map ns, by rw [hbefore, Tree.at?_nil], ns, rfl, hname⟩
      · exact hcategories before hbefore htail fun heq => hproper (heq ▸ rfl)

/-! ### What the descent finds -/

/-- Puts keys in front of the path of a node. -/
def under (path : List String) (p : List String × Tree) : List String × Tree := (path ++ p.1, p.2)

/-- The keys passed so far only stand in front of the paths. -/
theorem namedAt_eq_map (path : List String) (t : Tree) :
    namedAt path t = (namedAt [] t).map (under path) := by
  induction t using Tree.induct generalizing path with
  | map ms ih =>
    rw [namedAt, namedAt]
    split
    · simp [under]
    · rw [namedBelow_eq_flatMap, namedBelow_eq_flatMap, List.map_flatMap]
      refine List.flatMap_congr fun m hm => ?_
      rw [ih m hm (path ++ [m.1]), ih m hm ([] ++ [m.1]), List.map_map]
      simp [under, Function.comp_def]
  | _ => rfl

theorem namedBelow_nil_eq_flatMap (ms : Members) :
    namedBelow [] ms = ms.flatMap fun m => (namedAt [] m.2).map (under [m.1]) := by
  rw [namedBelow_eq_flatMap]
  exact List.flatMap_congr fun m _ => namedAt_eq_map _ m.2

/-- The descent finds the nodes that a path leads to as records, and no others. -/
theorem mem_namedBelow_iff (h : (Tree.map ms).HasDistinctKeys) :
    (path, node) ∈ namedBelow [] ms ↔ LeadsToRecord ms path node := by
  generalize ht : Tree.map ms = t at h
  induction t using Tree.induct generalizing ms path with
  | map _ ih =>
    obtain rfl := Tree.map.inj ht
    obtain ⟨hkeys, hvalues⟩ := hasDistinctKeys_map_iff.mp h
    rw [namedBelow_nil_eq_flatMap, List.mem_flatMap]
    constructor
    · rintro ⟨⟨key, t⟩, hm, hfound⟩
      obtain ⟨⟨rest, u⟩, hrest, heq⟩ := List.mem_map.mp hfound
      obtain ⟨rfl, rfl⟩ : key :: rest = path ∧ u = node := Prod.mk.inj heq
      have hfind := (Members.find?_eq_some_iff hkeys).mpr hm
      cases t with
      | map ns =>
        dsimp only at hrest
        rw [namedAt] at hrest
        refine leadsToRecord_cons_iff.mpr ⟨ns, hfind, ?_⟩
        split at hrest
        · next hname =>
          obtain ⟨rfl, rfl⟩ := Prod.mk.inj (List.mem_singleton.mp hrest)
          exact .inl ⟨hname, rfl, rfl⟩
        · next hname =>
          exact .inr ⟨Bool.eq_false_iff.mpr hname, (ih _ hm rfl (hvalues _ hm)).mp hrest⟩
      | _ => exact absurd hrest List.not_mem_nil
    · intro hleads
      obtain ⟨key, rest, rfl⟩ := List.exists_cons_of_ne_nil hleads.ne_nil
      obtain ⟨ns, hfind, hns⟩ := leadsToRecord_cons_iff.mp hleads
      have hm := (Members.find?_eq_some_iff hkeys).mp hfind
      refine ⟨(key, .map ns), hm, List.mem_map.mpr ⟨(rest, node), ?_, rfl⟩⟩
      dsimp only
      rw [namedAt]
      rcases hns with ⟨hname, rfl, rfl⟩ | ⟨hname, hleads⟩
      · rw [if_pos hname]
        exact List.mem_singleton_self _
      · rw [if_neg (Bool.eq_false_iff.mp hname)]
        exact (ih _ hm rfl (hvalues _ hm)).mpr hleads
  | _ => cases ht

/-- The descent finds records in the order of the document. -/
theorem pairwise_precedes_namedBelow (h : (Tree.map ms).HasDistinctKeys) :
    (namedBelow [] ms).Pairwise fun a b => (Tree.map ms).Precedes a.1 b.1 := by
  generalize ht : Tree.map ms = t at h
  induction t using Tree.induct generalizing ms with
  | map _ ih =>
    obtain rfl := Tree.map.inj ht
    obtain ⟨hkeys, hvalues⟩ := hasDistinctKeys_map_iff.mp h
    rw [namedBelow_nil_eq_flatMap, List.pairwise_flatMap]
    constructor
    · rintro ⟨key, t⟩ hm
      rw [List.pairwise_map]
      cases t with
      | map ns =>
        have hfind := (Members.find?_eq_some_iff hkeys).mpr hm
        dsimp only
        rw [namedAt]
        split
        · exact List.pairwise_singleton _ _
        · exact (ih _ hm rfl (hvalues _ hm)).imp fun hab => hab.cons hfind
      | _ => exact .nil
    · -- What is found below a member stands in front of what is found below a later one.
      refine List.pairwise_iff_forall_sublist.mpr fun {m n} hmn a ha b hb => ?_
      obtain ⟨a, -, rfl⟩ := List.mem_map.mp ha
      obtain ⟨b, -, rfl⟩ := List.mem_map.mp hb
      exact ⟨[], ms, m.1, n.1, rfl, hmn.map Prod.fst, List.prefix_append _ _,
        List.prefix_append _ _⟩
  | _ => cases ht

/-- A list has the records below a map of weapons with their paths: all of them, each once, in the
order of the document, and none that lies within another. -/
structure FindsRecords (weapons : Members) (found : List (List String × Tree)) : Prop where
  mem_iff : ∀ path node, (path, node) ∈ found ↔ LeadsToRecord weapons path node
  nodup : (found.map Prod.fst).Nodup
  inOrder : found.Pairwise fun a b => (Tree.map weapons).Precedes a.1 b.1
  apart : ∀ a ∈ found, ∀ b ∈ found, a.1 <+: b.1 → a = b

/-- The descent finds the records. Each comes once and none within another, as their order is one in
which no path goes on from the end of another. -/
theorem findsRecords_namedBelow (h : (Tree.map ms).HasDistinctKeys) :
    FindsRecords ms (namedBelow [] ms) := by
  have horder := pairwise_precedes_namedBelow h
  have hapart : (namedBelow [] ms).Pairwise fun a b => ¬ a.1 <+: b.1 ∧ ¬ b.1 <+: a.1 :=
    horder.imp fun hab => hab.not_prefix h
  refine ⟨fun _ _ => mem_namedBelow_iff h, ?_, horder, fun a ha b hb hprefix => ?_⟩
  · rw [List.Nodup, List.pairwise_map]
    exact hapart.imp fun {a b} hab (heq : a.1 = b.1) => hab.1 (heq ▸ List.prefix_rfl)
  · have hsymm : Std.Symm fun a b : List String × Tree => ¬ a.1 <+: b.1 ∧ ¬ b.1 <+: a.1 :=
      ⟨fun _ _ hab => hab.symm⟩
    by_contra hne
    exact (hapart.forall ha hb hne).1 hprefix

/-! ### The weapons of a document -/

/-- The weapons that the descent finds in a document, with their paths. -/
def placedWeapons (document : Tree) : List (List String × Tree) :=
  namedBelow [] (membersAt document "weapons")

theorem membersAt_eq (h : document.find? key = some (.map ms)) : membersAt document key = ms := by
  rw [membersAt, h]
  rfl

theorem membersAt_eq_nil (h : ∀ ms, document.find? key ≠ some (.map ms)) :
    membersAt document key = [] := by
  rw [membersAt]
  cases hfind : document.find? key with
  | none => rfl
  | some t =>
    cases t with
    | map ms => exact absurd hfind (h ms)
    | _ => rfl

/-- The weapons that the descent finds in a document are the records below its map of weapons. -/
theorem findsRecords_placedWeapons (h : document.HasDistinctKeys) :
    FindsRecords (membersAt document "weapons") (placedWeapons document) :=
  findsRecords_namedBelow (hasDistinctKeys_membersAt h "weapons")

/-- The drafts of the weapons are the nodes found by the descent, unchanged, each with the keys of
its path joined by dots for an id. There are none in a document without a map of weapons. Otherwise
the nodes found are the records that a path leads to, each of them once and in the order of the
document, and none that is found lies within another. Documents that are read have distinct keys
(`Document.hasDistinctKeys_of_ofText`), so this holds of all documents of runs
(`FileView.HoldsDocument.findsRecords`). -/
theorem weapons_ofDocument (h : document.HasDistinctKeys) :
    ofDocument document .weapons =
        (placedWeapons document).map (fun p => ⟨".".intercalate p.1, p.2⟩) ∧
      ((∀ ms, document.find? "weapons" ≠ some (.map ms)) → ofDocument document .weapons = []) ∧
      ∀ weapons, document.find? "weapons" = some (.map weapons) →
        (∀ path node, (path, node) ∈ placedWeapons document ↔ LeadsToRecord weapons path node) ∧
        ((placedWeapons document).map Prod.fst).Nodup ∧
        (placedWeapons document).Pairwise (fun a b => (Tree.map weapons).Precedes a.1 b.1) ∧
        ∀ a ∈ placedWeapons document, ∀ b ∈ placedWeapons document, a.1 <+: b.1 → a = b := by
  refine ⟨rfl, fun hnone => ?_, fun weapons hweapons => ?_⟩
  · rw [ofDocument, membersAt_eq_nil hnone]
    rfl
  · have hplaced : placedWeapons document = namedBelow [] weapons := by
      rw [placedWeapons, membersAt_eq hweapons]
    obtain ⟨hmem, hnodup, horder, hapart⟩ := findsRecords_namedBelow (h.of_find? hweapons)
    rw [hplaced]
    exact ⟨hmem, hnodup, horder, hapart⟩

/-- A rack with a club under the key `name`, swords in categories, one of them under the empty key,
a note, and a dagger with a record within its own. -/
def rack : Members := [
  ("name", .map [("name", .text "Club")]),
  ("swords", .map [("longsword", .map [("knightly", .map [("name", .null)])]),
    ("", .map [("name", .text "Messer")])]),
  ("notes", .list [.map [("name", .text "Not a weapon")]]),
  ("dagger", .map [("name", .text "Dagger"), ("derived", .map [("name", .text "Shadow")])])]

/-- A document of the rack. -/
def rackDocument : Tree := .map [("weapons", .map rack)]

theorem weapons_ofDocument_rackDocument :
    rackDocument.HasDistinctKeys ∧
      (ofDocument rackDocument .weapons).map Draft.id =
        ["name", "swords.longsword.knightly", "swords.", "dagger"] ∧
      LeadsToRecord rack ["swords", ""] (.map [("name", .text "Messer")]) ∧
      ¬ LeadsToRecord rack ["dagger", "derived"] (.map [("name", .text "Shadow")]) := by
  have hdistinct : rackDocument.HasDistinctKeys := by
    simp [rackDocument, rack, Members.keys, Tree.HasDistinctKeys, Tree.MembersHaveDistinctKeys,
      Tree.ItemsHaveDistinctKeys]
  have hfound : placedWeapons rackDocument = [
      (["name"], .map [("name", .text "Club")]),
      (["swords", "longsword", "knightly"], .map [("name", .null)]),
      (["swords", ""], .map [("name", .text "Messer")]),
      (["dagger"], .map [("name", .text "Dagger"),
        ("derived", .map [("name", .text "Shadow")])])] := rfl
  obtain ⟨hdrafts, -, hrack⟩ := weapons_ofDocument hdistinct
  obtain ⟨hmem, -⟩ := hrack rack rfl
  refine ⟨hdistinct, ?_, (hmem _ _).mp ?_, mt (hmem _ _).mpr ?_⟩
  · rw [hdrafts, hfound]
    decide +kernel
  · simp [hfound]
  · simp [hfound]

end Draft

end CombatContent
