import CombatContent.Proofs.Content.Splitting
import CombatContent.Proofs.Reordering.Drafts

/-!
# Null members

A null member of a map counts as absent. Records are typed without their null members, and the
descent to the drafts of a document passes over null members as it does over absent ones, unless
being there is all that it looks for: a map with a `name` is a weapon or a material of armour
whatever the `name` is, and every member of the tissue templates and body plans is a draft. Apart
from these, a document has the same content with and without its null members.

## Main definitions

* `Tree.dropNull?`: what removing null members leaves of a value that may be missing.
* `Draft.Reaches`: the maps that the descent to the weapons reaches.
* `Draft.dropNulls`: a draft without the null members of its node.

## Main results

* `Tree.dropNulls_dropNulls`, `Tree.find?_dropNulls`: removing null members twice, and looking
  members up afterwards.
* `Draft.namedBelow_dropNullMembers`: the descent to the weapons.
* `Draft.drafts_dropNulls`: the drafts of a document without its null members.
* `Content.ofDocument_eq_of_drafts`, `Content.ofDocument_dropNulls`: its content.
-/

namespace CombatContent

/-! ### Trees -/

namespace Tree

variable {t : Tree} {ms : Members} {o : Option Tree}

theorem isNull_dropNulls (t : Tree) : t.dropNulls.isNull = t.isNull := by
  cases t <;> rfl

theorem isMap_dropNulls (t : Tree) : t.dropNulls.isMap = t.isMap := by
  cases t <;> rfl

theorem isNull_iff : t.isNull = true ↔ t = .null := by
  cases t <;> simp [isNull]

/-- Once null members are removed there are none left to remove. -/
theorem dropNulls_dropNulls (t : Tree) : t.dropNulls.dropNulls = t.dropNulls := by
  induction t using Tree.induct with
  | list ts ih =>
    rw [dropNulls, dropNulls, dropNullsItems_eq_map, dropNullsItems_eq_map, List.map_map]
    exact congrArg Tree.list (List.map_congr_left ih)
  | map ms ih =>
    rw [dropNulls, dropNulls, dropNullMembers_eq_filterMap, dropNullMembers_eq_filterMap,
      List.filterMap_filterMap]
    refine congrArg Tree.map (List.filterMap_congr fun m hm => ?_)
    cases hnull : m.2.isNull with
    | true => rfl
    | false => simp [isNull_dropNulls, hnull, ih m hm]
  | _ => rfl

/-- What removing null members leaves of a value that may be missing. -/
def dropNull? (o : Option Tree) : Option Tree := (o.filter fun t => !t.isNull).map dropNulls

theorem dropNull?_some (t : Tree) :
    dropNull? (some t) = if t.isNull then none else some t.dropNulls := by
  cases h : t.isNull <;> simp [dropNull?, Option.filter, h]

/-- A text is the same text without null members. -/
theorem dropNull?_bind_text? (o : Option Tree) : (dropNull? o).bind text? = o.bind text? := by
  cases o with
  | none => rfl
  | some t => cases t <;> rfl

/-- What is there stays there, unless it is null. -/
theorem isSome_dropNull? (h : o ≠ some .null) : (dropNull? o).isSome = o.isSome := by
  cases o with
  | none => rfl
  | some t =>
    have hnull : t.isNull = false := by
      rw [Bool.eq_false_iff, ne_eq, isNull_iff]
      exact fun heq => h (congrArg some heq)
    rw [dropNull?_some, hnull]
    rfl

/-- The members of a map that may be missing. -/
theorem dropNull?_members (o : Option Tree) :
    ((dropNull? o).bind members?).getD [] = dropNullMembers ((o.bind members?).getD []) := by
  cases o with
  | none => rfl
  | some t => cases t <;> rfl

/-- What is found under a key without null members is what is left of what was found. -/
theorem find?_dropNullMembers (h : ms.keys.Nodup) (key : String) :
    Members.find? (dropNullMembers ms) key = dropNull? (ms.find? key) := by
  induction ms with
  | nil => rfl
  | cons m ms ih =>
    obtain ⟨hkey, hkeys⟩ := List.nodup_cons.mp h
    specialize ih hkeys
    by_cases heq : m.1 = key
    · have hfind : Members.find? (m :: ms) key = some m.2 := by simp [Members.find?, heq]
      rw [hfind, dropNull?_some, dropNullMembers]
      cases hnull : m.2.isNull with
      | true =>
        -- No other member has the key of the one that is removed.
        have hnone : Members.find? ms key = none := by
          rw [Members.find?, Option.map_eq_none_iff, List.find?_eq_none]
          intro n hn hnkey
          have hsame : n.1 = m.1 := (beq_iff_eq.mp hnkey).trans heq.symm
          exact hkey (List.mem_map.mpr ⟨n, hn, hsame⟩)
        rw [if_pos rfl, if_pos rfl, ih, hnone]
        rfl
      | false => simp [Members.find?, heq]
    · have hfind : Members.find? (m :: ms) key = Members.find? ms key := by
        simp [Members.find?, heq]
      rw [hfind, ← ih, dropNullMembers]
      split
      · rfl
      · simp [Members.find?, heq]

theorem find?_dropNulls (h : t.HasDistinctKeys) (key : String) :
    t.dropNulls.find? key = dropNull? (t.find? key) := by
  cases t with
  | map ms => exact find?_dropNullMembers (hasDistinctKeys_map_iff.mp h).1 key
  | _ => rfl

/-- What is left of a member of what may be missing. -/
theorem dropNull?_bind_find? (h : ∀ t ∈ o, t.HasDistinctKeys) (key : String) :
    (dropNull? o).bind (find? · key) = dropNull? (o.bind (find? · key)) := by
  cases o with
  | none => rfl
  | some t =>
    rw [dropNull?_some, Option.bind_some]
    split
    · next hnull =>
      rw [isNull_iff.mp hnull]
      rfl
    · exact find?_dropNulls (h t rfl) key

theorem has_eq_isSome_find? (ms : Members) (key : String) :
    ms.has key = (ms.find? key).isSome := by
  rw [Members.has, Members.find?, Option.isSome_map, Bool.eq_iff_iff, List.any_eq_true,
    List.find?_isSome]

end Tree

/-! ### Drafts -/

namespace Draft

open CombatContent.Tree (dropNullMembers dropNull?)

/-- A draft without the null members of its node. -/
def dropNulls (d : Draft) : Draft := ⟨d.id, d.node.dropNulls⟩

/-- The maps that the descent to the weapons reaches from the members of a nest: those that are
members of it, and those that are reached from a member without a `name`. -/
inductive Reaches : Members → Members → Prop
  | member {key : String} {ms ns : Members} (h : (key, .map ns) ∈ ms) : Reaches ms ns
  | inside {key : String} {ms ns ns' : Members} (h : (key, .map ns) ∈ ms)
      (hname : ns.has "name" = false) (hreached : Reaches ns ns') : Reaches ms ns'

/-- A way to make drafts of members makes the same draft of a member without null members, and none
of a null member. -/
def IgnoresNulls (f : String × Tree → Option Draft) (m : String × Tree) : Prop :=
  (if m.2.isNull then none else f (m.1, m.2.dropNulls)) = (f m).map dropNulls

variable {document : Tree} {ms : Members} {m : String × Tree}

theorem filterMap_dropNullMembers {f : String × Tree → Option Draft}
    (hf : ∀ m ∈ ms, IgnoresNulls f m) :
    (dropNullMembers ms).filterMap f = (ms.filterMap f).map dropNulls := by
  rw [Tree.dropNullMembers_eq_filterMap, List.filterMap_filterMap, List.map_filterMap]
  refine List.filterMap_congr fun m hm => ?_
  rw [← hf m hm]
  split <;> rfl

theorem sortedBy_filterMap_dropNullMembers {f : String × Tree → Option Draft}
    (hf : ∀ m ∈ ms, IgnoresNulls f m) :
    sortedBy Draft.id ((dropNullMembers ms).filterMap f) =
      (sortedBy Draft.id (ms.filterMap f)).map dropNulls := by
  rw [filterMap_dropNullMembers hf]
  exact sortedBy_map (fun _ => rfl) _

theorem ignoresNulls_keyed? (h : m.2.HasDistinctKeys) : IgnoresNulls keyed? m := by
  simp only [IgnoresNulls, keyed?, Tree.isMap_dropNulls, Tree.find?_dropNulls h,
    Tree.dropNull?_bind_text?]
  cases hnull : m.2.isNull with
  | true =>
    rw [Tree.isNull_iff.mp hnull]
    rfl
  | false => cases m.2.isMap <;> rfl

theorem ignoresNulls_named? (h : m.2.HasDistinctKeys) (hname : m.2.find? "name" ≠ some .null) :
    IgnoresNulls named? m := by
  simp only [IgnoresNulls, named?, Tree.find?_dropNulls h, Tree.isSome_dropNull? hname]
  cases hnull : m.2.isNull with
  | true =>
    rw [Tree.isNull_iff.mp hnull]
    rfl
  | false => cases (m.2.find? "name").isSome <;> rfl

theorem ignoresNulls_identified? (h : m.2.HasDistinctKeys) : IgnoresNulls identified? m := by
  simp only [IgnoresNulls, identified?, Tree.find?_dropNulls h, Tree.dropNull?_bind_text?,
    Option.map_map]
  cases hnull : m.2.isNull with
  | true =>
    rw [Tree.isNull_iff.mp hnull]
    rfl
  | false => rfl

theorem ignoresNulls_some (h : m.2 ≠ .null) : IgnoresNulls (fun m => some ⟨m.1, m.2⟩) m := by
  have hnull : m.2.isNull = false := by rwa [Bool.eq_false_iff, ne_eq, Tree.isNull_iff]
  rw [IgnoresNulls, hnull]
  rfl

/-- The descent to the weapons finds the same records at the same paths without null members, if no
map that it reaches has a null `name`. -/
theorem namedBelow_dropNullMembers (hms : (Tree.map ms).HasDistinctKeys)
    (hname : ∀ ns, Reaches ms ns → ns.find? "name" ≠ some .null) (path : List String) :
    namedBelow path (dropNullMembers ms) =
      (namedBelow path ms).map fun p => (p.1, p.2.dropNulls) := by
  generalize ht : Tree.map ms = t at hms
  induction t using Tree.induct generalizing ms path with
  | map _ ih =>
    obtain rfl := Tree.map.inj ht
    obtain ⟨-, hvalues⟩ := Tree.hasDistinctKeys_map_iff.mp hms
    rw [namedBelow_eq_flatMap, namedBelow_eq_flatMap, Tree.dropNullMembers_eq_filterMap,
      List.filterMap_eq_flatMap_toList, List.flatMap_assoc, List.map_flatMap]
    refine List.flatMap_congr fun m hm => ?_
    obtain ⟨key, t⟩ := m
    cases t with
    | map ns =>
      have hns := hvalues _ hm
      have hkept : Members.has (dropNullMembers ns) "name" = Members.has ns "name" := by
        rw [Tree.has_eq_isSome_find?, Tree.has_eq_isSome_find?,
          Tree.find?_dropNullMembers (Tree.hasDistinctKeys_map_iff.mp hns).1,
          Tree.isSome_dropNull? (hname ns (.member hm))]
      cases hhas : Members.has ns "name" with
      | true => simp [Tree.isNull, Tree.dropNulls, namedAt, hkept, hhas]
      | false =>
        have hbelow := ih _ hm (fun ns' h => hname ns' (.inside hm hhas h)) (path ++ [key]) rfl hns
        simpa [Tree.isNull, Tree.dropNulls, namedAt, hkept, hhas] using hbelow
    | _ => rfl
  | _ => cases ht

theorem membersAt_dropNulls (h : document.HasDistinctKeys) (key : String) :
    membersAt document.dropNulls key = dropNullMembers (membersAt document key) := by
  rw [membersAt, membersAt, Tree.find?_dropNulls h, Tree.dropNull?_members]

theorem armourMaterialMembers_dropNulls (h : document.HasDistinctKeys) :
    armourMaterialMembers document.dropNulls =
      dropNullMembers (armourMaterialMembers document) := by
  rw [armourMaterialMembers, armourMaterialMembers, Tree.find?_dropNulls h,
    Tree.dropNull?_bind_find? (fun _ ht => h.of_find? ht), Tree.dropNull?_members]

/-- What the drafts of a document need to be the same without its null members: where they are told
by a `name` it is not null, and where they are the members of a map none of these is null. -/
structure HasNoNullRecord (document : Tree) : Prop where
  weapons : ∀ ns, Reaches (membersAt document "weapons") ns → ns.find? "name" ≠ some .null
  materials : ∀ m ∈ armourMaterialMembers document, m.2.find? "name" ≠ some .null
  templates : ∀ m ∈ membersAt document "tissue_templates", m.2 ≠ .null
  plans : ∀ m ∈ membersAt document "body_plans", m.2 ≠ .null

/-- The drafts of a document without its null members are those of the document, each without its
own. -/
theorem drafts_dropNulls (hdistinct : document.HasDistinctKeys)
    (h : HasNoNullRecord document) (d : Dataset) :
    ofDocument document.dropNulls d = (ofDocument document d).map dropNulls := by
  have hmembers (key : String) : ∀ m ∈ membersAt document key, m.2.HasDistinctKeys :=
    (Tree.hasDistinctKeys_map_iff.mp (hasDistinctKeys_membersAt hdistinct key)).2
  cases d with
  | weapons =>
    have hbelow := namedBelow_dropNullMembers (hasDistinctKeys_membersAt hdistinct "weapons")
      h.weapons []
    simp only [ofDocument, ofCategories, membersAt_dropNulls hdistinct, hbelow, List.map_map]
    rfl
  | techniques | species =>
    simp only [ofDocument, ofKeyed_eq_filterMap, membersAt_dropNulls hdistinct]
    exact filterMap_dropNullMembers fun m hm => ignoresNulls_keyed? (hmembers _ m hm)
  | armourMaterials =>
    have hvalues := (Tree.hasDistinctKeys_map_iff.mp
      (hasDistinctKeys_armourMaterialMembers hdistinct)).2
    simp only [ofDocument, ofNamed_eq_sortedBy, armourMaterialMembers_dropNulls hdistinct]
    exact sortedBy_filterMap_dropNullMembers fun m hm =>
      ignoresNulls_named? (hvalues m hm) (h.materials m hm)
  | armourPieces | combatTests =>
    simp only [ofDocument, ofIdentified_eq_sortedBy, membersAt_dropNulls hdistinct]
    exact sortedBy_filterMap_dropNullMembers fun m hm => ignoresNulls_identified? (hmembers _ m hm)
  | tissueTemplates =>
    simp only [ofDocument, ofMembers_eq_filterMap, membersAt_dropNulls hdistinct]
    exact filterMap_dropNullMembers fun m hm => ignoresNulls_some (h.templates m hm)
  | bodyPlans =>
    simp only [ofDocument, ofMembers_eq_filterMap, membersAt_dropNulls hdistinct]
    exact filterMap_dropNullMembers fun m hm => ignoresNulls_some (h.plans m hm)

/-! ### Typing -/

variable {α : Type} (read : Typing.Reader α)

/-- A draft is typed as it is without its null members. -/
theorem typed_dropNulls (d : Draft) : d.dropNulls.typed read = d.typed read := by
  rw [typed, typed, dropNulls, Tree.dropNulls_dropNulls]

theorem records_map_dropNulls (ds : List Draft) :
    records read (ds.map dropNulls) = records read ds := by
  rw [records, records, List.filterMap_map]
  exact List.filterMap_congr fun d _ => by rw [Function.comp_apply, typed_dropNulls]

theorem malformed_map_dropNulls (dataset : Dataset) (ds : List Draft) :
    Draft.malformed read dataset (ds.map dropNulls) = Draft.malformed read dataset ds := by
  rw [Draft.malformed, Draft.malformed, List.filterMap_map]
  refine List.filterMap_congr fun d _ => ?_
  rw [Function.comp_apply, typed_dropNulls]
  rfl

end Draft

namespace Content

/-- Two documents have the same content if the drafts of one are those of the other, each without
its null members. -/
theorem ofDocument_eq_of_drafts {document document' : Tree}
    (h : ∀ d, Draft.ofDocument document' d = (Draft.ofDocument document d).map Draft.dropNulls) :
    ofDocument document' = ofDocument document := by
  have hmalformed : malformedIn document' = malformedIn document := by
    funext d
    rw [malformedIn_eq, malformedIn_eq, h, Draft.malformed_map_dropNulls]
  simp only [ofDocument, h, Draft.records_map_dropNulls, hmalformed]

/-- A document has the same content with and without its null members, at any depth: the same ids in
the same order, the same records, and the same malformed records with the same faults. Documents
that are read have distinct keys (`Document.hasDistinctKeys_of_ofText`), so runs end alike
(`CommandLine.perform_dropNulls`). -/
theorem ofDocument_dropNulls {document : Tree} (hdistinct : document.HasDistinctKeys)
    (h : Draft.HasNoNullRecord document) : ofDocument document.dropNulls = ofDocument document :=
  ofDocument_eq_of_drafts (Draft.drafts_dropNulls hdistinct h)

/-- Null members of every sort: a category, a section, members of records at any depth, an id, a
technique, and one that leaves a weapon malformed. -/
def sparseDocument : Tree := .map [
  ("weapons", .map [("ruined", .null), ("swords", .map [("lost", .null), ("knightly",
    .map [("name", .text "Knightly Sword"), ("weight_kg", .text "heavy"), ("category", .null)])])]),
  ("techniques", .map [("thrust", .map [("id", .null), ("name", .text "Thrust"),
    ("channels", .map [("weapon", .boolean true), ("footwork", .null)])]), ("feint", .null)]),
  ("species", .null),
  ("materials", .map [("armour", .map [("scrap", .null),
    ("steel", .map [("name", .text "Steel"), ("shape", .null)])])]),
  ("armour_pieces", .map [("helm", .map [("id", .text "helm"), ("material", .null)]),
    ("rag", .map [("id", .null)])]),
  ("tissue_templates", .map [("flesh", .map [("notes", .null), ("layers", .list [.null])])]),
  ("body_plans", .map [("biped", .map [("parts", .map [("torso", .map [("parent", .null)])])])])]

theorem ofDocument_dropNulls_sparseDocument :
    (ofDocument sparseDocument).ids .techniques = ["thrust"] ∧
      (ofDocument sparseDocument).malformed.map Malformed.message =
        ["malformed weapons record 'swords.knightly': invalid type: string \"heavy\", expected f64",
          "malformed tissue_templates record 'flesh': " ++
            "invalid type: null, expected struct TissueLayerData"] ∧
      ofDocument sparseDocument.dropNulls = ofDocument sparseDocument := by
  refine ⟨by decide +kernel, by decide +kernel, ofDocument_dropNulls ?_ ⟨?_, ?_, ?_, ?_⟩⟩
  · simp [sparseDocument, Members.keys, Tree.HasDistinctKeys, Tree.MembersHaveDistinctKeys,
      Tree.ItemsHaveDistinctKeys]
  · have hweapons : Draft.membersAt sparseDocument "weapons" = [("ruined", .null), ("swords",
        .map [("lost", .null), ("knightly", .map [("name", .text "Knightly Sword"),
          ("weight_kg", .text "heavy"), ("category", .null)])])] := rfl
    rw [hweapons]
    rintro ns (⟨hswords⟩ | ⟨hswords, -, ⟨hknightly⟩ | ⟨hknightly, hname, -⟩⟩)
    · obtain ⟨-, rfl⟩ : _ = "swords" ∧ ns = _ := by simpa using hswords
      simp [Members.find?]
    · obtain ⟨-, rfl⟩ : _ = "swords" ∧ _ = _ := by simpa using hswords
      obtain ⟨-, rfl⟩ : _ = "knightly" ∧ ns = _ := by simpa using hknightly
      simp [Members.find?]
    · -- The descent ends at the sword, which has a name.
      obtain ⟨-, rfl⟩ : _ = "swords" ∧ _ = _ := by simpa using hswords
      obtain ⟨-, rfl⟩ : _ = "knightly" ∧ _ = _ := by simpa using hknightly
      exact absurd hname (by decide)
  · simp [sparseDocument, Draft.armourMaterialMembers, Tree.find?, Tree.members?, Members.find?]
  · simp [sparseDocument, Draft.membersAt, Tree.find?, Tree.members?, Members.find?]
  · simp [sparseDocument, Draft.membersAt, Tree.find?, Tree.members?, Members.find?]

end Content

end CombatContent
