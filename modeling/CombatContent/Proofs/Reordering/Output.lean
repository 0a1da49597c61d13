import CombatContent.Proofs.Content.Drafts
import CombatContent.Proofs.Reordering.Drafts
import CombatContent.Proofs.Reordering.Records
import CombatContent.Zig.Generated

/-!
# The generated file and the order of members

A reordered document gives the same records as before, in the same order or in an order that the
tables do not show, for they sort it. So where a file is generated from a document, the same file
is generated from the document reordered.

## Main definitions

* `Content.Alike`: content with the same records, up to what tables do not show.

## Main results

* `Content.alike_ofDocument`: what a reordered document contains.
* `Zig.tableOf_eq_of_alike`, `Zig.generate_eq_ok_of_alike`: the tables and the file of alike
  content.
* `Zig.generate_eq_ok_of_isReordering`: the file of a reordered document.
-/

namespace CombatContent

variable {α : Type} {rel : α → α → Prop}

/-! ### Records -/

/-- Records of one id with related data. -/
structure Record.Alike (rel : α → α → Prop) (r s : Record α) : Prop where
  id : r.id = s.id
  data : rel r.data s.data

/-- Records that are related to others in some order. -/
def RecordsReordered (rel : α → α → Prop) (rs ss' : List (Record α)) : Prop :=
  ∃ ss, List.Forall₂ (Record.Alike rel) rs ss ∧ ss.Perm ss'

theorem Record.Alike.eq {r s : Record α} (h : r.Alike Eq s) : r = s := by
  obtain ⟨hid, hdata⟩ := h
  cases r
  cases s
  rw [Record.mk.injEq]
  exact ⟨hid, hdata⟩

namespace Draft

variable {read : Typing.Reader α} {ds es : List Draft} {k : Dataset}

/-- All drafts can be typed just if none is malformed. -/
theorem mapM_typed_eq_ok_iff {rs : List (Record α)} :
    ds.mapM (typed read) = .ok rs ↔ malformed read k ds = [] ∧ records read ds = rs := by
  induction ds generalizing rs with
  | nil => simp [malformed, records, pure, Except.pure]
  | cons d ds ih =>
    rw [malformed, records, List.filterMap_cons, List.filterMap_cons, List.mapM_cons,
      Typing.bind_eq_ok_iff]
    cases d.typed read with
    | error fault => simp
    | ok r =>
      simp only [Except.ok.injEq, exists_eq_left', Typing.bind_eq_ok_iff, ih]
      constructor
      · rintro ⟨_, ⟨hmalformed, rfl⟩, hrs⟩
        exact ⟨hmalformed, Except.ok.inj hrs⟩
      · rintro ⟨hmalformed, rfl⟩
        exact ⟨_, ⟨hmalformed, rfl⟩, rfl⟩

theorem typed_alike {a b : Draft} (hr : Typing.ReadsAlike rel read) (h : a.Alike b)
    {r : Record α} (hrec : a.typed read = .ok r) :
    ∃ s, b.typed read = .ok s ∧ r.Alike rel s := by
  obtain ⟨data, hdata, rfl⟩ := Typing.map_eq_ok_iff.mp hrec
  obtain ⟨data', hdata', hrel⟩ := hr h.node.dropNulls h.distinct.dropNulls hdata
  exact ⟨⟨b.id, data'⟩, Typing.map_eq_ok_iff.mpr ⟨data', hdata', rfl⟩, ⟨h.id, hrel⟩⟩

/-- Alike drafts are typed as alike records. -/
theorem forall₂_records (hr : Typing.ReadsAlike rel read) (h : List.Forall₂ Alike ds es)
    (hds : malformed read k ds = []) :
    malformed read k es = [] ∧
      List.Forall₂ (Record.Alike rel) (records read ds) (records read es) := by
  obtain ⟨ss, hss, hrel⟩ := Typing.mapM_alike h (fun a _ b hab r => typed_alike hr hab)
    (mapM_typed_eq_ok_iff.mpr ⟨hds, rfl⟩)
  obtain ⟨hes, rfl⟩ := mapM_typed_eq_ok_iff.mp hss
  exact ⟨hes, hrel⟩

/-- Alike drafts in the same order are typed as the same records if the reader reads alike. -/
theorem records_eq (hr : Typing.ReadsAlike Eq read) (h : List.Forall₂ Alike ds es)
    (hds : malformed read k ds = []) :
    malformed read k es = [] ∧ records read ds = records read es := by
  obtain ⟨hes, hrel⟩ := forall₂_records hr h hds
  refine ⟨hes, ?_⟩
  rw [← List.forall₂_eq_eq_eq]
  exact hrel.imp fun _ _ => Record.Alike.eq

/-- Alike drafts in another order are typed as alike records in another order. -/
theorem recordsReordered_records (hr : Typing.ReadsAlike rel read)
    (h : ∃ as, List.Forall₂ Alike ds as ∧ as.Perm es) (hds : malformed read k ds = []) :
    malformed read k es = [] ∧ RecordsReordered rel (records read ds) (records read es) := by
  obtain ⟨as, halign, hperm⟩ := h
  obtain ⟨hnone, hrel⟩ := forall₂_records hr halign hds
  have hmalformed : (malformed read k as).Perm (malformed read k es) := hperm.filterMap _
  rw [hnone] at hmalformed
  exact ⟨hmalformed.nil_eq.symm, _, hrel, hperm.filterMap _⟩

end Draft

/-! ### Content -/

namespace Content

variable {c c' : Content} {d d' : Tree}

/-- Content with the same records; those of the datasets that tables sort may come in another
order, and the parts of body plans may be declared in another order. -/
structure Alike (c c' : Content) : Prop where
  weapons : c.weapons = c'.weapons
  techniques : c.techniques = c'.techniques
  armourMaterials : c.armourMaterials = c'.armourMaterials
  armourPieces : c.armourPieces = c'.armourPieces
  tissueTemplates : RecordsReordered Eq c.tissueTemplates c'.tissueTemplates
  bodyPlans : RecordsReordered BodyPlan.Alike c.bodyPlans c'.bodyPlans
  species : RecordsReordered Eq c.species c'.species
  combatTests : c.combatTests = c'.combatTests

section Reordered

variable (hd : d.HasDistinctKeys)
  (hids : ∀ k ∈ [Dataset.armourPieces, .combatTests, .species],
    ((Draft.ofDocument d k).map Draft.id).Nodup)

include hd hids

/-- Where no record is malformed, a reordered document has alike content, and none is malformed
there either. -/
theorem alike_ofDocument (h : Draft.IsReordering d d') (hnone : (ofDocument d).malformed = []) :
    (ofDocument d').malformed = [] ∧ (ofDocument d).Alike (ofDocument d') := by
  have hpieces := hids .armourPieces (by decide)
  have htests := hids .combatTests (by decide)
  have hnone (k : Dataset) : malformedIn d k = [] :=
    List.flatMap_eq_nil_iff.mp hnone k (Dataset.mem_all k)
  have hsame := @Draft.forall₂_ofDocument d d' h hd hpieces htests
  have hother := @Draft.exists_forall₂_perm_ofDocument d d' h.reordered hd
  have hweapons := Draft.records_eq readsAlike_weapon (hsame (by decide)) (hnone .weapons)
  have htechniques :=
    Draft.records_eq readsAlike_technique (hsame (by decide)) (hnone .techniques)
  have hmaterials :=
    Draft.records_eq readsAlike_armourMaterial (hsame (by decide)) (hnone .armourMaterials)
  have hpieces :=
    Draft.records_eq readsAlike_armourPiece (hsame (by decide)) (hnone .armourPieces)
  have htemplates := Draft.recordsReordered_records readsAlike_tissueTemplate
    (hother (by decide)) (hnone .tissueTemplates)
  have hplans := Draft.recordsReordered_records readsAlike_bodyPlan
    (hother (by decide)) (hnone .bodyPlans)
  have hspecies := Draft.recordsReordered_records readsAlike_species
    (hother (by decide)) (hnone .species)
  have htests := Draft.records_eq readsAlike_combatTest (hsame (by decide)) (hnone .combatTests)
  refine ⟨List.flatMap_eq_nil_iff.mpr fun k _ => ?_, hweapons.2, htechniques.2, hmaterials.2,
    hpieces.2, htemplates.2, hplans.2, hspecies.2, htests.2⟩
  cases k with
  | weapons => exact hweapons.1
  | techniques => exact htechniques.1
  | armourMaterials => exact hmaterials.1
  | armourPieces => exact hpieces.1
  | tissueTemplates => exact htemplates.1
  | bodyPlans => exact hplans.1
  | species => exact hspecies.1
  | combatTests => exact htests.1

/-- The records of a dataset that tables sort have distinct ids. -/
theorem nodup_ids_ofDocument (k : Dataset) (hk : k ∈ Dataset.sortedInTables) :
    ((ofDocument d).ids k).Nodup := by
  have hdrafts := Draft.nodup_ids_ofDocument hd (hids .species (by decide)) hk
  rw [ids_ofDocument]
  exact hdrafts.sublist (List.filter_sublist.map _)

end Reordered

end Content

/-! ### Tables -/

namespace Zig

variable {c c' : Content} {d d' : Tree}

/-- Reordered records of distinct ids have the same rows when they are sorted by id. -/
theorem rows_eq_of_recordsReordered {row : Record α → Row}
    (hrow : ∀ r s, r.Alike rel s → row r = row s) {rs ss : List (Record α)}
    (h : RecordsReordered rel rs ss) (hnodup : (rs.map Record.id).Nodup) :
    (sortedBy Record.id rs).map row = (sortedBy Record.id ss).map row := by
  obtain ⟨ts, halign, hperm⟩ := h
  exact map_eq_map_of_forall₂ hrow
    (forall₂_sortedBy (fun _ _ => Record.Alike.id) halign hperm hnodup)

/-- The row of a body plan does not show in which order its parts are declared. -/
theorem bodyPlanRow_eq_of_alike {r s : Record BodyPlan} (h : r.Alike BodyPlan.Alike s) :
    bodyPlanRow r = bodyPlanRow s := by
  have hparts : orderedParts r.data = orderedParts s.data := h.data.parts
  simp only [bodyPlanRow, h.id, h.data.name, h.data.baseHeight, h.data.baseMass, hparts]

theorem tableOf_eq_of_alike (h : c.Alike c')
    (hids : ∀ k ∈ Dataset.sortedInTables, (c.ids k).Nodup)
    (k : Dataset) : tableOf c k = tableOf c' k := by
  cases k with
  | weapons => rw [tableOf, tableOf, h.weapons]
  | techniques => rw [tableOf, tableOf, h.techniques]
  | armourMaterials => rw [tableOf, tableOf, h.armourMaterials]
  | armourPieces => rw [tableOf, tableOf, h.armourPieces]
  | combatTests => rw [tableOf, tableOf, h.combatTests]
  | tissueTemplates =>
    have hrows := rows_eq_of_recordsReordered
      (fun _ _ h => congrArg tissueTemplateRow h.eq) h.tissueTemplates
      (hids .tissueTemplates (by decide))
    rw [tableOf, tableOf, tissueTable, tissueTable, hrows]
  | bodyPlans =>
    have hrows := rows_eq_of_recordsReordered (fun _ _ => bodyPlanRow_eq_of_alike) h.bodyPlans
      (hids .bodyPlans (by decide))
    rw [tableOf, tableOf, bodyPlanTable, bodyPlanTable, hrows]
  | species =>
    have hrows := rows_eq_of_recordsReordered
      (fun _ _ h => congrArg speciesRow h.eq) h.species
      (hids .species (by decide))
    rw [tableOf, tableOf, speciesTable, speciesTable, hrows]

theorem count_eq_of_alike (h : c.Alike c') (k : Dataset) : c.count k = c'.count k := by
  have hlength {α : Type} {rel : α → α → Prop} {rs ss : List (Record α)}
      (h : RecordsReordered rel rs ss) : rs.length = ss.length := by
    obtain ⟨ts, halign, hperm⟩ := h
    exact halign.length_eq.trans hperm.length_eq
  cases k with
  | weapons => rw [Content.count, Content.count, h.weapons]
  | techniques => rw [Content.count, Content.count, h.techniques]
  | armourMaterials => rw [Content.count, Content.count, h.armourMaterials]
  | armourPieces => rw [Content.count, Content.count, h.armourPieces]
  | combatTests => rw [Content.count, Content.count, h.combatTests]
  | tissueTemplates => exact hlength h.tissueTemplates
  | bodyPlans => exact hlength h.bodyPlans
  | species => exact hlength h.species

theorem render_eq_of_alike (h : c.Alike c')
    (hids : ∀ k ∈ Dataset.sortedInTables, (c.ids k).Nodup)
    (ids : NameSet) : render c ids = render c' ids := by
  have htables : tables c = tables c' := by
    rw [tables, tables, funext (tableOf_eq_of_alike h hids)]
    simp only [count_eq_of_alike h]
  rw [render, render, sections, sections, htables]

theorem techniqueIds_eq_of_alike (h : c.Alike c') : c.techniqueIds = c'.techniqueIds := by
  rw [Content.techniqueIds, Content.techniqueIds, h.techniques]

/-- The file that is generated from content is also generated from alike content, if that has no
malformed records either. -/
theorem generate_eq_ok_of_alike (h : c.Alike c') (hnone : c'.malformed = [])
    (hids : ∀ k ∈ Dataset.sortedInTables, (c.ids k).Nodup)
    {committed : Option NameSet} {text : String} (hgenerate : generate c committed = .ok text) :
    generate c' committed = .ok text := by
  obtain ⟨-, hagree, rfl⟩ := generate_eq_ok_iff.mp hgenerate
  have htechniques := techniqueIds_eq_of_alike h
  refine generate_eq_ok_iff.mpr ⟨hnone, htechniques ▸ hagree, ?_⟩
  rw [← htechniques, render_eq_of_alike h hids]

/-- Where a file is generated from a document, the same file is generated from the document
reordered, whatever the committed ids are. Documents that are read have distinct keys
(`Document.hasDistinctKeys_of_ofText`), so this holds of all runs
(`FileView.Generates.of_isReordering`). -/
theorem generate_eq_ok_of_isReordering (hd : d.HasDistinctKeys) (h : Draft.IsReordering d d')
    (hids : ∀ k ∈ [Dataset.armourPieces, .combatTests, .species],
      ((Draft.ofDocument d k).map Draft.id).Nodup)
    {committed : Option NameSet} {text : String}
    (hgenerate : generate (Content.ofDocument d) committed = .ok text) :
    generate (Content.ofDocument d') committed = .ok text := by
  obtain ⟨hnone, -, -⟩ := generate_eq_ok_iff.mp hgenerate
  obtain ⟨hnone', halike⟩ := Content.alike_ofDocument hd hids h hnone
  have hnodup := Content.nodup_ids_ofDocument hd hids
  exact generate_eq_ok_of_alike halike hnone' hnodup hgenerate

/-- A sword, a technique, a piece of armour, a biped of two parts and two species. -/
def duelDocument : Tree := .map [
  ("weapons", .map [("swords", .map [("knightly",
    .map [("name", .text "Knightly Sword"), ("balance", .integer 1)])])]),
  ("techniques", .map [("thrust", .map [("name", .text "Thrust"), ("difficulty", .integer 2)])]),
  ("armour_pieces", .map [("head", .map [("id", .text "helm"), ("material", .text "steel")])]),
  ("body_plans", .map [("biped", .map [("parts", .map [
    ("torso", .map [("tag", .text "torso")]), ("arm", .map [("parent", .text "torso")])])])]),
  ("species", .map [("elf", .map [("body_plan", .text "biped")]),
    ("dwarf", .map [("body_plan", .text "biped")])])]

/-- The same with the members of maps the other way round. -/
def reversedDuelDocument : Tree := .map [
  ("species", .map [("dwarf", .map [("body_plan", .text "biped")]),
    ("elf", .map [("body_plan", .text "biped")])]),
  ("body_plans", .map [("biped", .map [("parts", .map [
    ("arm", .map [("parent", .text "torso")]), ("torso", .map [("tag", .text "torso")])])])]),
  ("armour_pieces", .map [("head", .map [("material", .text "steel"), ("id", .text "helm")])]),
  ("techniques", .map [("thrust", .map [("difficulty", .integer 2), ("name", .text "Thrust")])]),
  ("weapons", .map [("swords", .map [("knightly",
    .map [("balance", .integer 1), ("name", .text "Knightly Sword")])])])]

theorem hasDistinctKeys_duelDocument : duelDocument.HasDistinctKeys := by
  simp [duelDocument, Members.keys, Tree.HasDistinctKeys, Tree.MembersHaveDistinctKeys]

theorem isReordering_duelDocument : Draft.IsReordering duelDocument reversedDuelDocument where
  reordered := by
    refine .map (.cons (.mk _ ?_) (.cons (.mk _ ?_) (.cons (.mk _ ?_) (.cons (.mk _ ?_)
      (.cons (.mk _ ?_) .nil))))) (List.reverse_perm _).symm
    · exact .map (.cons (.mk _ (.map (.cons (.mk _ (.of_perm (.swap ..))) .nil) (.refl _))) .nil)
        (.refl _)
    · exact .map (.cons (.mk _ (.of_perm (.swap ..))) .nil) (.refl _)
    · exact .map (.cons (.mk _ (.of_perm (.swap ..))) .nil) (.refl _)
    · exact .map (.cons (.mk _ (.map (.cons (.mk _ (.of_perm (.swap ..))) .nil) (.refl _))) .nil)
        (.refl _)
    · exact .of_perm (.swap ..)
  categories := by
    rintro (_ | ⟨key, _ | ⟨key', path⟩⟩)
    · rfl
    · by_cases hkey : "swords" = key
      · subst hkey
        rfl
      · simp [duelDocument, reversedDuelDocument, Draft.membersAt, Draft.category?, Members.find?,
          Tree.find?, Tree.members?, hkey]
    · by_cases hkey : "swords" = key
      · subst hkey
        by_cases hkey : "knightly" = key'
        · subst hkey
          rfl
        · simp [duelDocument, reversedDuelDocument, Draft.membersAt, Draft.category?, Members.find?,
            Tree.find?, Tree.members?, Members.has, hkey]
      · simp [duelDocument, reversedDuelDocument, Draft.membersAt, Draft.category?, Members.find?,
          Tree.find?, Tree.members?, hkey]
  techniques := rfl

theorem generate_reversedDuelDocument :
    let committed := some (NameSet.ofList ["thrust"])
    ∃ text, generate (Content.ofDocument duelDocument) committed = .ok text ∧
      generate (Content.ofDocument reversedDuelDocument) committed = .ok text := by
  intro committed
  have hnone : (Content.ofDocument duelDocument).malformed = [] :=
    List.isEmpty_iff.mp (by decide +kernel)
  have hids : committed = some (Content.ofDocument duelDocument).techniqueIds := by decide +kernel
  have hgenerate := generate_eq_ok_iff.mpr ⟨hnone, .inr (.inr hids), rfl⟩
  exact ⟨_, hgenerate, generate_eq_ok_of_isReordering hasDistinctKeys_duelDocument
    isReordering_duelDocument (by decide +kernel) hgenerate⟩

end Zig

end CombatContent
