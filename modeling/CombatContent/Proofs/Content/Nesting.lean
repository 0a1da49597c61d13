import CombatContent.Content
import CombatContent.Proofs.Content.NullMembers
import CombatContent.Proofs.Typing.WrittenForms

/-!
# Records nested in records

The two written forms of a record are typed alike wherever the record stands: on its own, as a
member or an element of another record, in a list, or among the parts of a body plan. A place in a
tree is followed down with the readers that read it. What is read of the whole depends on the value
at the place only through what is read there, and a fault there is a fault of the whole. Removing
null members leaves the place where it is.

## Main definitions

* `schema`: the records, and the records nested in them.
* `Place`: the places at which a reader reads values with another one.
* `ReadsThrough`: the whole depends on a place only through what is read there.

## Main results

* `Place.readsThrough`, `Place.dropNulls`: what a place keeps.
* `typed_list_eq_typed_map`: the two forms of a record at any place.
-/

namespace CombatContent

open Typing (Reader Fault Shape)

/-- The written forms of records, and of the records nested in them. -/
def schema : List (Σ ρ : Type, Shape ρ) := [
  ⟨_, WeaponPhysics.shape⟩, ⟨_, Weapon.shape⟩,
  ⟨_, Channels.shape⟩, ⟨_, DamageInstance.shape⟩, ⟨_, ScalingStats.shape⟩, ⟨_, Scaling.shape⟩,
  ⟨_, Damage.shape⟩, ⟨_, OffensiveOverlay.shape⟩, ⟨_, DefensiveOverlay.shape⟩,
  ⟨_, Overlay.shape⟩, ⟨_, AxisBias.shape⟩, ⟨_, Technique.shape⟩,
  ⟨_, Shielding.shape⟩, ⟨_, Susceptibility.shape⟩, ⟨_, MaterialForm.shape⟩,
  ⟨_, ArmourMaterial.shape⟩, ⟨_, Coverage.shape⟩, ⟨_, ArmourPiece.shape⟩,
  ⟨_, LayerMaterial.shape⟩, ⟨_, TissueLayer.shape⟩, ⟨_, TissueTemplate.shape⟩,
  ⟨_, PartFlags.shape⟩, ⟨_, PartGeometry.shape⟩, ⟨_, BodyPart.shape⟩, ⟨_, BodyPlan.shape⟩,
  ⟨_, SizeModifiers.shape⟩, ⟨_, NaturalWeapon.shape⟩, ⟨_, Species.shape⟩,
  ⟨_, AttackerStats.shape⟩, ⟨_, Attacker.shape⟩, ⟨_, Defender.shape⟩, ⟨_, Expectation.shape⟩,
  ⟨_, CombatTest.shape⟩]

/-- The fields of every record are told apart by their names. -/
theorem nodup_names_of_mem_schema : ∀ s ∈ schema, s.2.names.Nodup := by
  decide

/-! ### Places -/

/-- The places in the trees of a reader at which it reads values with an inner reader: the place of
the whole tree, and any below the members and elements that the reader reads with readers of their
own. A place is a tree in which one value is left open. -/
inductive Place {α : Type} (inner : Reader α) : {β : Type} → Reader β → (Tree → Tree) → Prop
  | here : Place inner inner fun t => t
  | value {β γ : Type} {r : Reader β} {place : Tree → Tree} (f : β → γ)
      (h : Place inner r place) : Place inner (fun t => (r t).map f) place
  | optional {β : Type} {r : Reader β} {place : Tree → Tree} (h : Place inner r place) :
      Place inner (Typing.optional r) place
  | item {β : Type} {r : Reader β} {place : Tree → Tree} (before after : List Tree)
      (h : Place inner r place) :
      Place inner (Typing.sequence r) fun t => .list (before ++ place t :: after)
  | member {ρ : Type} {shape : Shape ρ} {f : Typing.Field ρ} {key : String}
      {place : Tree → Tree} (before after : Members) (hf : shape.field? key = some f)
      (h : Place inner f.read place) :
      Place inner shape.read fun t => .map (before ++ (key, place t) :: after)
  | element {ρ : Type} {shape : Shape ρ} {f : Typing.Field ρ} {place : Tree → Tree}
      (before after : List Tree) (hf : shape.fields[before.length]? = some f)
      (h : Place inner f.read place) :
      Place inner shape.read fun t => .list (before ++ place t :: after)
  | part {key : String} {place : Tree → Tree} (before after : Members)
      (h : Place inner BodyPart.shape.read place) :
      Place inner BodyPlan.readParts fun t => .map (before ++ (key, place t) :: after)

variable {α β γ δ ρ : Type}

/-- The whole depends on a place only through what is read there, and a fault there is a fault of
the whole. -/
def ReadsThrough (inner : Reader α) (outer : Reader β) (place : Tree → Tree) : Prop :=
  ∃ whole : Except Fault α → Except Fault β,
    (∀ t, t.isNull = false → outer (place t) = whole (inner t)) ∧
    ∀ fault, ∃ fault', whole (.error fault) = .error fault'

/-- A reader that makes something of what is read at the place. -/
theorem ReadsThrough.of_map {inner : Reader α} {r : Reader β} {outer : Reader γ}
    {place place' : Tree → Tree} (h : ReadsThrough inner r place) {f : β → γ}
    (houter : ∀ t, t.isNull = false → outer (place' t) = (r (place t)).map f) :
    ReadsThrough inner outer place' := by
  obtain ⟨whole, hwhole, hfault⟩ := h
  refine ⟨fun answer => (whole answer).map f, fun t ht => ?_, fun fault => ?_⟩
  · rw [houter t ht, hwhole t ht]
  · obtain ⟨fault', hfault'⟩ := hfault fault
    exact ⟨fault', congrArg (Except.map f) hfault'⟩

/-- A reader that does something first, then reads at the place, and then goes on. -/
theorem ReadsThrough.of_bind {inner : Reader α} {r : Reader β} {outer : Reader γ}
    {place place' : Tree → Tree} (h : ReadsThrough inner r place) {first : Except Fault δ}
    {rest : δ → β → Except Fault γ}
    (houter : ∀ t, t.isNull = false →
      outer (place' t) = first >>= fun x => r (place t) >>= rest x) :
    ReadsThrough inner outer place' := by
  obtain ⟨whole, hwhole, hfault⟩ := h
  refine ⟨fun answer => first >>= fun x => whole answer >>= rest x, fun t ht => ?_, fun fault => ?_⟩
  · rw [houter t ht, hwhole t ht]
  · obtain ⟨fault', hfault'⟩ := hfault fault
    simp only [hfault']
    cases first with
    | error fault'' => exact ⟨fault'', rfl⟩
    | ok x => exact ⟨fault', rfl⟩

/-! ### Lists and maps at a place -/

theorem dropNulls_list_at {t u : Tree} (hdrop : t.dropNulls = u) (before after : List Tree) :
    (Tree.list (before ++ t :: after)).dropNulls =
      .list (before.map Tree.dropNulls ++ u :: after.map Tree.dropNulls) := by
  rw [Tree.dropNulls, Tree.dropNullsItems_eq_map, List.map_append, List.map_cons, hdrop]

theorem dropNulls_map_at {t u : Tree} (hnull : t.isNull = false) (hdrop : t.dropNulls = u)
    (before after : Members) (key : String) :
    (Tree.map (before ++ (key, t) :: after)).dropNulls =
      .map (Tree.dropNullMembers before ++ (key, u) :: Tree.dropNullMembers after) := by
  rw [Tree.dropNulls]
  simp [Tree.dropNullMembers_eq_filterMap, hnull, hdrop]

theorem mapM_at (r : γ → Except Fault α) (before after : List γ) (x : γ) :
    (before ++ x :: after).mapM r =
      before.mapM r >>= fun as => r x >>= fun a => after.mapM r >>= fun bs =>
        .ok (as ++ a :: bs) := by
  simp only [List.mapM_append, List.mapM_cons, bind_assoc, pure_bind]
  rfl

namespace Typing.Shape

variable (shape : Shape ρ)

/-- Whether a field is missing is seen from the keys. -/
theorem missing?_at (before after : Members) (key : String) (t u : Tree) :
    shape.missing? (before ++ (key, t) :: after) =
      shape.missing? (before ++ (key, u) :: after) := by
  simp [missing?, Members.has]

theorem readMap_at {key : String} {f : Field ρ} (hf : shape.field? key = some f)
    (before after : Members) (t : Tree) :
    shape.readMap (before ++ (key, t) :: after) =
      before.foldlM shape.readMember shape.start >>= fun x => f.read t >>= fun put =>
        after.foldlM shape.readMember (put x) >>= fun y =>
          match shape.missing? (before ++ (key, .null) :: after) with
          | some g => .error (.missingMember g.name)
          | none => .ok y := by
  have hreadMap (ms : Members) : shape.readMap ms = shape.readMembers ms >>= fun y =>
      match shape.missing? ms with
      | some g => .error (.missingMember g.name)
      | none => .ok y := by
    rw [readMap]
    cases shape.readMembers ms <;> rfl
  have hmember (x : ρ) : shape.readMember x (key, t) = f.read t >>= fun put => .ok (put x) := by
    rw [readMember, hf]
    change (f.read t).map (fun put => put x) = _
    cases f.read t <;> rfl
  simp only [hreadMap, readMembers, List.foldlM_append, List.foldlM_cons, hmember, bind_assoc,
    shape.missing?_at before after key t .null]
  rfl

/-- The elements in front are read first, and do not look at those behind. The induction is on
them, and carries along the record that they are read into. -/
theorem exists_readElements_at {f : Field ρ} (count : Nat) {fs : List (Field ρ)}
    {before : List Tree} (hf : fs[before.length]? = some f) (after : List Tree) (x : ρ) :
    ∃ (first : Except Fault ρ) (rest : ρ → (ρ → ρ) → Except Fault ρ), ∀ t,
      shape.readElements count fs (before ++ t :: after) x =
        first >>= fun y => f.read t >>= rest y := by
  induction before generalizing fs x with
  | nil =>
    cases fs with
    | nil => cases hf
    | cons g fs =>
      obtain rfl := Option.some.inj hf
      refine ⟨.ok x, fun y put => shape.readElements count fs after (put y), fun t => ?_⟩
      rw [List.nil_append, readElements]
      cases g.read t <;> rfl
  | cons u before ih =>
    cases fs with
    | nil => cases hf
    | cons g fs =>
      cases hg : g.read u with
      | error fault =>
        refine ⟨.error fault, fun y _ => .ok y, fun t => ?_⟩
        rw [List.cons_append, readElements, hg]
        rfl
      | ok put =>
        obtain ⟨first, rest, hread⟩ := ih hf (put x)
        refine ⟨first, rest, fun t => ?_⟩
        rw [List.cons_append, readElements, hg]
        exact hread t

theorem exists_readList_at {f : Field ρ} {before : List Tree}
    (hf : shape.fields[before.length]? = some f) (after : List Tree) :
    ∃ (first : Except Fault ρ) (rest : ρ → (ρ → ρ) → Except Fault ρ), ∀ t,
      shape.readList (before ++ t :: after) = first >>= fun x => f.read t >>= rest x := by
  obtain ⟨first, rest, hread⟩ := shape.exists_readElements_at
    (before.length + (after.length + 1)) hf after shape.start
  refine ⟨first, rest, fun t => ?_⟩
  rw [readList, List.length_append, List.length_cons]
  exact hread t

end Typing.Shape

namespace Place

variable {inner : Reader α} {outer : Reader β} {place : Tree → Tree}

/-- What stands at a place is null only if the value there is. -/
theorem isNull (h : Place inner outer place) {t : Tree} (ht : t.isNull = false) :
    (place t).isNull = false := by
  induction h with
  | here => exact ht
  | value _ _ ih | optional _ ih => exact ih
  | item | member | element | part => rfl

/-- By induction on the place, what is read of the whole is made of what is read there. -/
theorem readsThrough (h : Place inner outer place) : ReadsThrough inner outer place := by
  induction h with
  | here => exact ⟨fun answer => answer, fun _ _ => rfl, fun fault => ⟨fault, rfl⟩⟩
  | value _ _ ih => exact ih.of_map fun _ _ => rfl
  | optional h ih =>
    refine ih.of_map (f := some) fun t ht => ?_
    rw [Typing.optional]
    exact fun hnull => absurd (h.isNull ht) (by rw [hnull]; decide)
  | item before after _ ih => exact ih.of_bind fun t _ => mapM_at _ before after _
  | @member _ shape _ _ _ before after hf _ ih =>
    exact ih.of_bind fun t _ => shape.readMap_at hf before after _
  | @element _ shape _ _ before after hf _ ih =>
    obtain ⟨first, rest, hread⟩ := shape.exists_readList_at hf after
    exact ih.of_bind fun t _ => hread _
  | @part key place before after _ ih =>
    have hpart : ReadsThrough inner (fun t => (BodyPart.shape.read t).map fun part => (key, part))
        place := ih.of_map fun _ _ => rfl
    exact hpart.of_bind fun t _ => mapM_at _ before after (key, place t)

/-- Removing null members removes them around the place and at it. -/
theorem dropNulls (h : Place inner outer place) :
    ∃ place', Place inner outer place' ∧
      ∀ t, t.isNull = false → (place t).dropNulls = place' t.dropNulls := by
  induction h with
  | here => exact ⟨_, .here, fun _ _ => rfl⟩
  | value f _ ih =>
    obtain ⟨place', hplace', hdrop⟩ := ih
    exact ⟨place', .value f hplace', hdrop⟩
  | optional _ ih =>
    obtain ⟨place', hplace', hdrop⟩ := ih
    exact ⟨place', .optional hplace', hdrop⟩
  | item before after _ ih =>
    obtain ⟨place', hplace', hdrop⟩ := ih
    exact ⟨_, .item _ _ hplace', fun t ht => dropNulls_list_at (hdrop t ht) before after⟩
  | member before after hf h ih =>
    obtain ⟨place', hplace', hdrop⟩ := ih
    exact ⟨_, .member _ _ hf hplace',
      fun t ht => dropNulls_map_at (h.isNull ht) (hdrop t ht) before after _⟩
  | element before after hf _ ih =>
    obtain ⟨place', hplace', hdrop⟩ := ih
    refine ⟨_, .element (before.map Tree.dropNulls) _ ?_ hplace',
      fun t ht => dropNulls_list_at (hdrop t ht) before after⟩
    rw [List.length_map, hf]
  | part before after h ih =>
    obtain ⟨place', hplace', hdrop⟩ := ih
    exact ⟨_, .part _ _ hplace',
      fun t ht => dropNulls_map_at (h.isNull ht) (hdrop t ht) before after _⟩

end Place

/-! ### Written forms -/

/-- The map that gives values under names loses none of them if none is null. -/
theorem dropNullMembers_zip (names : List String) {ts : List Tree}
    (hts : ∀ t ∈ ts, t.isNull = false) :
    Tree.dropNullMembers (names.zip ts) = names.zip (ts.map Tree.dropNulls) := by
  rw [Tree.dropNullMembers_eq_filterMap, List.zip_map_right, ← List.filterMap_eq_map]
  refine List.filterMap_congr fun m hm => ?_
  rw [hts m.2 (List.of_mem_zip hm).2]
  rfl

/-- Every record of the schema in which all fields may be left out is typed alike from the list of
its first fields and from the map that gives them under their names, at any place of any record,
with the same fault if there is one. A list with more elements than it has fields is refused. -/
theorem typed_list_eq_typed_map {shape : Shape ρ} (hschema : ⟨ρ, shape⟩ ∈ schema)
    (hoptional : ∀ f ∈ shape.fields, f.required = false) {outer : Reader β}
    {place : Tree → Tree} (hplace : Place shape.read outer place) (id : String)
    (values : List Tree) :
    ((∀ t ∈ values, t.isNull = false) → values.length ≤ shape.fields.length →
      Draft.typed outer ⟨id, place (.list values)⟩ =
        Draft.typed outer ⟨id, place (.map (shape.names.zip values))⟩) ∧
    (shape.fields.length < values.length →
      ∃ fault, Draft.typed outer ⟨id, place (.list values)⟩ = .error fault) := by
  have hshape : shape.AllOptional := ⟨nodup_names_of_mem_schema _ hschema, hoptional⟩
  obtain ⟨place', hplace', hdrop⟩ := hplace.dropNulls
  obtain ⟨whole, hwhole, hfault⟩ := hplace'.readsThrough
  have htyped (t : Tree) (ht : t.isNull = false) : Draft.typed outer ⟨id, place t⟩ =
      (whole (shape.read t.dropNulls)).map fun data => ⟨id, data⟩ := by
    rw [Draft.typed, hdrop t ht, hwhole _ ((Tree.isNull_dropNulls t).trans ht)]
  have hlist : shape.read (Tree.list values).dropNulls =
      shape.readList (values.map Tree.dropNulls) := by
    rw [Tree.dropNulls, Tree.dropNullsItems_eq_map, Shape.read]
  refine ⟨fun hvalues hlength => ?_, fun hlength => ?_⟩
  · rw [htyped _ rfl, htyped _ rfl, hlist, Tree.dropNulls, dropNullMembers_zip _ hvalues,
      hshape.readList_eq_readMap (by rwa [List.length_map]), Shape.read]
  · obtain ⟨fault, hread⟩ : ∃ fault, shape.readList (values.map Tree.dropNulls) = .error fault :=
      Shape.exists_fault_of_length_lt (by rwa [List.length_map])
    obtain ⟨fault', hfault'⟩ := hfault fault
    rw [htyped _ rfl, hlist, hread, hfault']
    exact ⟨fault', rfl⟩

/-- A body plan with one part, whose flags are left open. -/
def planWithFlags (flags : Tree) : Tree := .map [
  ("name", .null),
  ("parts", .map [("torso", .map [("tag", .text "torso"), ("flags", flags)])])]

/-- The flags are read deep inside the plan. -/
theorem place_planWithFlags : Place PartFlags.shape.read BodyPlan.shape.read planWithFlags :=
  .member [("name", .null)] [] rfl <| .value _ <| .part [] [] <|
    .member [("tag", .text "torso")] [] rfl <| .value _ .here

theorem typed_list_eq_typed_map_flags :
    Draft.typed BodyPlan.shape.read ⟨"biped", planWithFlags (.list [.boolean true, .text "no"])⟩ =
        Draft.typed BodyPlan.shape.read ⟨"biped",
          planWithFlags (.map [("vital", .boolean true), ("internal", .text "no")])⟩ ∧
      ∃ fault, Draft.typed BodyPlan.shape.read
        ⟨"biped", planWithFlags (.list (List.replicate 7 (.boolean false)))⟩ = .error fault := by
  have hschema : ⟨PartFlags, PartFlags.shape⟩ ∈ schema := by simp [schema]
  have hoptional : ∀ f ∈ PartFlags.shape.fields, f.required = false := by decide
  have htwo := typed_list_eq_typed_map hschema hoptional place_planWithFlags "biped"
    [.boolean true, .text "no"]
  have hseven := typed_list_eq_typed_map hschema hoptional place_planWithFlags "biped"
    (List.replicate 7 (.boolean false))
  exact ⟨htwo.1 (by decide) (by decide), hseven.2 (by decide)⟩

end CombatContent
