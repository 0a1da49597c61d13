import CombatContent.Draft
import CombatContent.Proofs.Reordering.Trees

/-!
# Drafts and the order of members

A document is reordered by permuting the members of its maps. Only the categories of weapons and
the techniques keep the order of their keys, for their drafts come in document order. The drafts of
a reordered document have the same ids as before, and their nodes are the same up to order. They
come in the same order where they keep that of the document, and also where they are sorted by id
and ids are distinct.

## Main definitions

* `Draft.category?`: the categories that the descent to the weapons passes through.
* `Draft.IsReordering`: one document is another reordered.
* `Draft.Alike`: drafts of one id whose nodes are the same up to order.

## Main results

* `Draft.forall₂_ofDocument`: drafts that come in the same order.
* `Draft.exists_forall₂_perm_ofDocument`: drafts that may come in another order.
-/

namespace CombatContent

/-- The datasets that tables sort by id. -/
def Dataset.sortedInTables : List Dataset := [.tissueTemplates, .bodyPlans, .species]

namespace Draft

open CombatContent.Tree (MemberReordered MembersReordered)

/-- The members of the category at a path of keys. A map with a `name` is no category. -/
def category? : List String → Members → Option Members
  | [], ms => some ms
  | key :: path, ms =>
    match ms.find? key with
    | some (.map ns) => if Members.has ns "name" then none else category? path ns
    | _ => none

/-- Nests of categories with the same keys in the same order at every path. -/
def SameCategories (ms ns : Members) : Prop :=
  ∀ path, (category? path ms).map Members.keys = (category? path ns).map Members.keys

/-- One document is another with the members of any of its maps permuted, except that the keys of
every category of weapons and those of the techniques are in the same order. -/
structure IsReordering (d d' : Tree) : Prop where
  reordered : d.Reordered d'
  categories : SameCategories (membersAt d "weapons") (membersAt d' "weapons")
  techniques : (membersAt d "techniques").keys = (membersAt d' "techniques").keys

/-- Drafts of one id whose nodes are the same up to order. -/
structure Alike (a b : Draft) : Prop where
  id : a.id = b.id
  distinct : a.node.HasDistinctKeys
  node : a.node.Reordered b.node

variable {d d' t u : Tree} {ms ns ns' : Members} {key : String}

/-! ### Members of a document -/

theorem membersReordered_of_rel {o o' : Option Tree} (h : Option.Rel Tree.Reordered o o') :
    MembersReordered ((o.bind Tree.members?).getD []) ((o'.bind Tree.members?).getD []) := by
  have hnil : MembersReordered [] [] := ⟨[], .nil, .nil⟩
  cases h with
  | none => exact hnil
  | @some t u h =>
    cases t with
    | map ms =>
      obtain ⟨ns', rfl, hms⟩ := Tree.Reordered.map_iff.mp h
      exact hms
    | _ => cases h <;> exact hnil

theorem hasDistinctKeys_members {o : Option Tree} (h : ∀ t ∈ o, t.HasDistinctKeys) :
    (Tree.map ((o.bind Tree.members?).getD [])).HasDistinctKeys := by
  have hnil : (Tree.map []).HasDistinctKeys :=
    Tree.hasDistinctKeys_map_iff.mpr (by simp [Members.keys])
  cases o with
  | none => exact hnil
  | some t =>
    cases t with
    | map ms => exact h _ rfl
    | _ => exact hnil

theorem membersReordered_membersAt (h : d.Reordered d') (hd : d.HasDistinctKeys) (key : String) :
    MembersReordered (membersAt d key) (membersAt d' key) :=
  membersReordered_of_rel (h.rel_find? hd key)

theorem hasDistinctKeys_membersAt (hd : d.HasDistinctKeys) (key : String) :
    (Tree.map (membersAt d key)).HasDistinctKeys :=
  hasDistinctKeys_members fun _ ht => hd.of_find? ht

theorem membersReordered_armourMaterialMembers (h : d.Reordered d') (hd : d.HasDistinctKeys) :
    MembersReordered (armourMaterialMembers d) (armourMaterialMembers d') := by
  have hmaterials := h.rel_find? hd "materials"
  have hdistinct (t : Tree) (ht : d.find? "materials" = some t) := hd.of_find? ht
  refine membersReordered_of_rel ?_
  generalize d.find? "materials" = o at hmaterials hdistinct ⊢
  generalize d'.find? "materials" = o' at hmaterials ⊢
  cases hmaterials with
  | none => exact .none
  | some h => exact h.rel_find? (hdistinct _ rfl) "armour"

theorem hasDistinctKeys_armourMaterialMembers (hd : d.HasDistinctKeys) :
    (Tree.map (armourMaterialMembers d)).HasDistinctKeys :=
  hasDistinctKeys_members fun t ht => by
    obtain ⟨materials, hmaterials, harmour⟩ := Option.bind_eq_some_iff.mp ht
    exact (hd.of_find? hmaterials).of_find? harmour

/-! ### Drafts in the order of members -/

/-- What makes drafts of members makes alike drafts of members up to order. -/
def Respects (f : String × Tree → Option Draft) : Prop :=
  ∀ m n, m.2.HasDistinctKeys ∧ MemberReordered m n → Option.Rel Alike (f m) (f n)

theorem forall₂_filterMap {f : String × Tree → Option Draft} (hf : Respects f)
    (hms : (Tree.map ms).HasDistinctKeys) (h : List.Forall₂ MemberReordered ms ns) :
    List.Forall₂ Alike (ms.filterMap f) (ns.filterMap f) :=
  List.rel_filterMap hf
    ((List.forall₂_and_left ms ns).mpr ⟨(Tree.hasDistinctKeys_map_iff.mp hms).2, h⟩)

theorem exists_forall₂_filterMap {f : String × Tree → Option Draft} (hf : Respects f)
    (hms : (Tree.map ms).HasDistinctKeys) (h : MembersReordered ms ns') :
    ∃ ds, List.Forall₂ Alike (ms.filterMap f) ds ∧ ds.Perm (ns'.filterMap f) := by
  obtain ⟨ns, halign, hperm⟩ := h
  exact ⟨ns.filterMap f, forall₂_filterMap hf hms halign, hperm.filterMap f⟩

/-- Drafts of distinct ids come in the same order when they are sorted by id. -/
theorem forall₂_sortedBy_filterMap {f : String × Tree → Option Draft} (hf : Respects f)
    (hms : (Tree.map ms).HasDistinctKeys) (h : MembersReordered ms ns')
    (hnodup : ((sortedBy Draft.id (ms.filterMap f)).map Draft.id).Nodup) :
    List.Forall₂ Alike (sortedBy Draft.id (ms.filterMap f))
      (sortedBy Draft.id (ns'.filterMap f)) := by
  obtain ⟨ds, hds, hperm⟩ := exists_forall₂_filterMap hf hms h
  refine forall₂_sortedBy (fun _ _ => Alike.id) hds hperm ?_
  exact ((perm_sortedBy Draft.id _).map Draft.id).nodup_iff.mp hnodup

/-- The draft of a member keyed by id. -/
def keyed? (m : String × Tree) : Option Draft :=
  if m.2.isMap then some ⟨((m.2.find? "id").bind Tree.text?).getD m.1, m.2⟩ else none

/-- The draft of a member with a `name`. -/
def named? (m : String × Tree) : Option Draft :=
  if (m.2.find? "name").isSome then some ⟨m.1, m.2⟩ else none

/-- The draft of a member with an id of its own. -/
def identified? (m : String × Tree) : Option Draft :=
  ((m.2.find? "id").bind Tree.text?).map fun id => ⟨id, m.2⟩

theorem ofKeyed_eq_filterMap (ms : Members) : ofKeyed ms = ms.filterMap keyed? := by
  rw [ofKeyed, ← List.filterMap_eq_map, List.filterMap_filter]
  rfl

theorem ofNamed_eq_sortedBy (ms : Members) :
    ofNamed ms = sortedBy Draft.id (ms.filterMap named?) := by
  rw [ofNamed, ← List.filterMap_eq_map, List.filterMap_filter]
  rfl

theorem ofIdentified_eq_sortedBy (ms : Members) :
    ofIdentified ms = sortedBy Draft.id (ms.filterMap identified?) := rfl

theorem ofMembers_eq_filterMap (ms : Members) :
    ofMembers ms = ms.filterMap fun m => some ⟨m.1, m.2⟩ := by
  rw [ofMembers, List.filterMap_eq_map']

theorem respects_keyed? : Respects keyed? := by
  rintro _ _ ⟨ht, ⟨key, h⟩⟩
  simp only [keyed?, h.isMap_eq, h.text_find?_eq ht]
  split
  · exact .some ⟨rfl, ht, h⟩
  · exact .none

theorem respects_named? : Respects named? := by
  rintro _ _ ⟨ht, ⟨key, h⟩⟩
  simp only [named?, h.isSome_find?_eq ht]
  split
  · exact .some ⟨rfl, ht, h⟩
  · exact .none

theorem respects_identified? : Respects identified? := by
  rintro _ _ ⟨ht, ⟨key, h⟩⟩
  simp only [identified?, h.text_find?_eq ht]
  generalize Option.bind _ _ = id?
  cases id? with
  | none => exact .none
  | some id => exact .some ⟨rfl, ht, h⟩

theorem respects_some : Respects fun m => some ⟨m.1, m.2⟩ := by
  rintro _ _ ⟨ht, ⟨key, h⟩⟩
  exact .some ⟨rfl, ht, h⟩

/-! ### Drafts in the order of categories -/

theorem namedBelow_eq_flatMap (path : List String) (ms : Members) :
    namedBelow path ms = ms.flatMap fun m => namedAt (path ++ [m.1]) m.2 := by
  induction ms with
  | nil => rfl
  | cons m ms ih => rw [namedBelow, ih, List.flatMap_cons]

theorem SameCategories.keys_eq (h : SameCategories ms ns) : ms.keys = ns.keys :=
  Option.some.inj (h [])

/-- What holds of the categories holds of those below them. -/
theorem SameCategories.below {ms₁ ns₁ : Members} (h : SameCategories ms ns)
    (hms : ms.find? key = some (.map ms₁)) (hns : ns.find? key = some (.map ns₁))
    (hms₁ : ms₁.has "name" = false) (hns₁ : ns₁.has "name" = false) : SameCategories ms₁ ns₁ := by
  intro path
  have hpath := h (key :: path)
  rw [category?, category?, hms, hns] at hpath
  simpa [hms₁, hns₁] using hpath

/-- Records at one path whose nodes are the same up to order. -/
def PlacedAlike (p q : List String × Tree) : Prop :=
  p.1 = q.1 ∧ p.2.HasDistinctKeys ∧ p.2.Reordered q.2

/-- The descent finds the records at the same paths in the same order. -/
theorem forall₂_namedBelow (h : MembersReordered ms ns') (hms : (Tree.map ms).HasDistinctKeys)
    (hcat : SameCategories ms ns') (path : List String) :
    List.Forall₂ PlacedAlike (namedBelow path ms) (namedBelow path ns') := by
  generalize ht : Tree.map ms = t at hms
  induction t using Tree.induct generalizing ms ns' path with
  | map _ ih =>
    obtain rfl := Tree.map.inj ht
    obtain ⟨hkeys, hvalues⟩ := Tree.hasDistinctKeys_map_iff.mp hms
    have halign := h.forall₂_of_keys_eq hkeys hcat.keys_eq
    rw [namedBelow_eq_flatMap, namedBelow_eq_flatMap]
    refine List.rel_flatMap (forall₂_mem halign) ?_
    rintro ⟨key, t⟩ ⟨_, u⟩ ⟨hmn, hm, hn⟩
    obtain ⟨rfl, htu⟩ := Tree.memberReordered_iff.mp hmn
    have ht := hvalues _ hm
    cases t with
    | map ms₁ =>
      obtain ⟨ns₁, rfl, hms₁⟩ := Tree.Reordered.map_iff.mp htu
      dsimp only
      rw [namedAt, namedAt, ← hms₁.has_eq]
      split
      · exact .cons ⟨rfl, ht, htu⟩ .nil
      · next hname =>
        have hname₁ : Members.has ms₁ "name" = false := Bool.eq_false_iff.mpr hname
        have hfind := (Members.find?_eq_some_iff hkeys).mpr hm
        have hfind' := (Members.find?_eq_some_iff (h.nodup_keys hkeys)).mpr hn
        exact ih _ hm hms₁ (hcat.below hfind hfind' hname₁ (hms₁.has_eq _ ▸ hname₁)) _ rfl ht
    | list ts =>
      obtain ⟨us, rfl, -⟩ := Tree.Reordered.list_iff.mp htu
      exact .nil
    | _ =>
      cases htu
      exact .nil
  | _ => cases ht

theorem forall₂_ofCategories (h : MembersReordered ms ns')
    (hms : (Tree.map ms).HasDistinctKeys) (hcat : SameCategories ms ns') :
    List.Forall₂ Alike (ofCategories ms) (ofCategories ns') := by
  refine List.rel_map ?_ (forall₂_namedBelow h hms hcat [])
  rintro ⟨path, t⟩ ⟨_, u⟩ ⟨rfl, ht, htu⟩
  exact ⟨rfl, ht, htu⟩

/-! ### Drafts of a document -/

theorem nodup_ids_ofNamed (h : ms.keys.Nodup) : ((ofNamed ms).map Draft.id).Nodup := by
  refine ((perm_sortedBy Draft.id _).map Draft.id).nodup_iff.mpr ?_
  rw [List.map_map]
  exact h.sublist (List.filter_sublist.map _)

theorem ids_ofMembers (ms : Members) : (ofMembers ms).map Draft.id = ms.keys := List.map_map

/-- Drafts that come in the order of the document, or sorted by distinct ids, come in the same
order. -/
theorem forall₂_ofDocument (h : IsReordering d d') (hd : d.HasDistinctKeys)
    (hpieces : ((ofDocument d .armourPieces).map Draft.id).Nodup)
    (htests : ((ofDocument d .combatTests).map Draft.id).Nodup) {k : Dataset}
    (hk : k ∉ Dataset.sortedInTables) :
    List.Forall₂ Alike (ofDocument d k) (ofDocument d' k) := by
  have hmembers := membersReordered_membersAt h.reordered hd
  have hdistinct := hasDistinctKeys_membersAt hd
  cases k with
  | weapons => exact forall₂_ofCategories (hmembers _) (hdistinct _) h.categories
  | techniques =>
    have hkeys := (Tree.hasDistinctKeys_map_iff.mp (hdistinct "techniques")).1
    simp only [ofDocument, ofKeyed_eq_filterMap]
    exact forall₂_filterMap respects_keyed? (hdistinct _)
      ((hmembers _).forall₂_of_keys_eq hkeys h.techniques)
  | armourMaterials =>
    have hms := hasDistinctKeys_armourMaterialMembers hd
    have hids := nodup_ids_ofNamed (Tree.hasDistinctKeys_map_iff.mp hms).1
    simp only [ofDocument, ofNamed_eq_sortedBy] at hids ⊢
    exact forall₂_sortedBy_filterMap respects_named? hms
      (membersReordered_armourMaterialMembers h.reordered hd) hids
  | armourPieces =>
    exact forall₂_sortedBy_filterMap respects_identified? (hdistinct _) (hmembers _) hpieces
  | combatTests =>
    exact forall₂_sortedBy_filterMap respects_identified? (hdistinct _) (hmembers _) htests
  | _ => exact absurd (by decide) hk

/-- Tissue templates, body plans and species may come in another order. -/
theorem exists_forall₂_perm_ofDocument (h : d.Reordered d') (hd : d.HasDistinctKeys) {k : Dataset}
    (hk : k ∈ Dataset.sortedInTables) :
    ∃ ds, List.Forall₂ Alike (ofDocument d k) ds ∧ ds.Perm (ofDocument d' k) := by
  have hmembers := membersReordered_membersAt h hd
  have hdistinct := hasDistinctKeys_membersAt hd
  cases k with
  | species =>
    simp only [ofDocument, ofKeyed_eq_filterMap]
    exact exists_forall₂_filterMap respects_keyed? (hdistinct _) (hmembers _)
  | tissueTemplates | bodyPlans =>
    simp only [ofDocument, ofMembers_eq_filterMap]
    exact exists_forall₂_filterMap respects_some (hdistinct _) (hmembers _)
  | _ => exact absurd hk (by decide)

theorem nodup_ids_ofDocument (hd : d.HasDistinctKeys)
    (hspecies : ((ofDocument d .species).map Draft.id).Nodup) {k : Dataset}
    (hk : k ∈ Dataset.sortedInTables) : ((ofDocument d k).map Draft.id).Nodup := by
  cases k with
  | species => exact hspecies
  | tissueTemplates | bodyPlans =>
    rw [ofDocument, ids_ofMembers]
    exact (Tree.hasDistinctKeys_map_iff.mp (hasDistinctKeys_membersAt hd _)).1
  | _ => exact absurd hk (by decide)

end Draft

end CombatContent
