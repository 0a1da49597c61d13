import CombatContent.Proofs.Document.Answers
import CombatContent.Proofs.Document.DistinctKeys
import CombatContent.Toml.Document

/-!
# Keys of TOML documents

The tables that are gathered have one member per key at every moment: headers and members put a key
that is not there, or change what stands at one that is.

## Main definitions

* `Toml.Table.Distinct`: a table with one member per key, at any depth.

## Main results

* `Toml.Table.Distinct.change`: changing the table that a path leads to keeps keys distinct.
* `Toml.gives_value`, `Toml.gives_lineStep`: the values and lines that are read.
* `Toml.hasDistinctKeys_of_ofText`: whole texts.
-/

namespace CombatContent.Toml

open Scan (Gives gives_pure gives_throw gives_bind gives_bind_of gives_ite gives_guard gives_forIn
  gives_repeatWhile)
open CombatContent.Tree (HasDistinctKeys)

/-! ### Tables -/

theorem memberTrees_eq_map (ms : Table) : memberTrees ms = ms.map fun m => (m.1, m.2.tree) := by
  induction ms with
  | nil => rfl
  | cons m ms ih => rw [memberTrees, ih, List.map_cons]

theorem tableTrees_eq_map (tables : List Table) :
    tableTrees tables = tables.map fun ms => .map (memberTrees ms) := by
  induction tables with
  | nil => rfl
  | cons ms tables ih => rw [tableTrees, ih, List.map_cons]

namespace Table

/-- A table whose value has distinct keys. -/
def Distinct (ms : Table) : Prop := (Tree.map (memberTrees ms)).HasDistinctKeys

variable {ms inner : Table} {key : String} {node : Node}

theorem distinct_iff :
    Distinct ms ↔ (ms.map (·.1)).Nodup ∧ ∀ m ∈ ms, m.2.tree.HasDistinctKeys := by
  rw [Distinct, Tree.hasDistinctKeys_map_iff, memberTrees_eq_map, Members.keys, List.map_map,
    List.forall_mem_map]
  rfl

theorem distinct_nil : Distinct [] := distinct_iff.mpr ⟨List.nodup_nil, List.forall_mem_nil _⟩

theorem hasDistinctKeys_tables {earlier : List Table} {last : Table} :
    (Node.tables earlier last).tree.HasDistinctKeys ↔
      (∀ ms ∈ earlier, Distinct ms) ∧ Distinct last := by
  rw [Node.tree, Tree.hasDistinctKeys_list_iff, tableTrees_eq_map, List.forall_mem_append,
    List.forall_mem_map, List.forall_mem_singleton]
  rfl

theorem notMem_of_lookup (h : ms.lookup key = none) : key ∉ ms.map (·.1) := by
  intro hmem
  obtain ⟨m, hm, rfl⟩ := List.mem_map.mp hmem
  simpa using List.lookup_eq_none_iff.mp h m hm

theorem mem_of_lookup (h : ms.lookup key = some node) : (key, node) ∈ ms := by
  obtain ⟨before, after, rfl, -⟩ := List.lookup_eq_some_iff.mp h
  simp

namespace Distinct

variable (h : Distinct ms)
include h

theorem of_lookup (hnode : ms.lookup key = some node) : node.tree.HasDistinctKeys :=
  (distinct_iff.mp h).2 _ (mem_of_lookup hnode)

theorem sublist {ms' : Table} (hs : ms'.Sublist ms) : Distinct ms' := by
  obtain ⟨hkeys, hnodes⟩ := distinct_iff.mp h
  exact distinct_iff.mpr ⟨hkeys.sublist (hs.map _), fun m hm => hnodes m (hs.subset hm)⟩

/-- A key that is not there may come last. -/
theorem concat (hkey : key ∉ ms.map (·.1)) (hnode : node.tree.HasDistinctKeys) :
    Distinct (ms ++ [(key, node)]) := by
  obtain ⟨hkeys, hnodes⟩ := distinct_iff.mp h
  refine distinct_iff.mpr ⟨?_, List.forall_mem_append.mpr ⟨hnodes, by simpa using hnode⟩⟩
  rw [List.map_append, List.map_singleton]
  exact List.nodup_append_comm.mp (List.nodup_cons.mpr ⟨hkey, hkeys⟩)

theorem replace (hnode : node.tree.HasDistinctKeys) : Distinct (ms.replace key node) := by
  obtain ⟨hkeys, hnodes⟩ := distinct_iff.mp h
  rw [Table.replace]
  split
  · refine distinct_iff.mpr ⟨?_, List.forall_mem_map.mpr fun m hm => ?_⟩
    · rw [List.map_map]
      refine (List.map_congr_left fun m _ => ?_) ▸ hkeys
      by_cases hm : m.1 = key <;> simp [hm]
    · split
      · exact hnode
      · exact hnodes m hm
  · next hnone => exact h.concat (notMem_of_lookup (Option.not_isSome_iff_eq_none.mp hnone)) hnode

end Distinct

/-- What is done to a table keeps its keys distinct. -/
def KeepsDistinct (f : Table → Option Table) : Prop :=
  ∀ ⦃ms ms'⦄, f ms = some ms' → Distinct ms → Distinct ms'

/-- Changing the table that a path leads to keeps keys distinct if the change does. -/
theorem keepsDistinct_change {new : Origin} {f : Origin → Table → Option Table}
    (hf : ∀ origin, KeepsDistinct (f origin)) (path : List String) (origin : Origin) :
    KeepsDistinct fun ms => change new f origin ms path := by
  induction path generalizing origin with
  | nil => exact hf origin
  | cons key path ih =>
    intro ms ms' hchange hms
    dsimp only at hchange
    rw [change] at hchange
    split at hchange
    · obtain ⟨inner, hinner, heq⟩ := Option.bind_eq_some_iff.mp hchange
      obtain rfl := Option.some.inj heq
      exact hms.replace (ih new hinner distinct_nil)
    · exact absurd hchange (Option.some_ne_none ms').symm
    · next origin inner hnode =>
      split at hchange
      · exact absurd hchange (Option.some_ne_none ms').symm
      · obtain ⟨inner', hinner, heq⟩ := Option.bind_eq_some_iff.mp hchange
        obtain rfl := Option.some.inj heq
        exact hms.replace (ih origin hinner (hms.of_lookup hnode))
    · next earlier last hnode =>
      obtain ⟨last', hlast, heq⟩ := Option.bind_eq_some_iff.mp hchange
      obtain rfl := Option.some.inj heq
      obtain ⟨hearlier, hlast'⟩ := hasDistinctKeys_tables.mp (hms.of_lookup hnode)
      exact hms.replace (hasDistinctKeys_tables.mpr ⟨hearlier, ih .named hlast hlast'⟩)

theorem keepsDistinct_openHere (key : String) : KeepsDistinct (openHere key) := by
  intro ms ms' hopen hms
  rw [openHere] at hopen
  split at hopen
  · next hnone =>
    obtain rfl := Option.some.inj hopen
    exact hms.concat (notMem_of_lookup hnone) distinct_nil
  · next inner hnode =>
    obtain rfl := Option.some.inj hopen
    have hinner : (Node.table .implied inner).tree.HasDistinctKeys := hms.of_lookup hnode
    refine (hms.sublist List.filter_sublist).concat (fun hmem => ?_) hinner
    obtain ⟨m, hm, rfl⟩ := List.mem_map.mp hmem
    simp at hm
  · exact absurd hopen (Option.some_ne_none ms').symm

theorem keepsDistinct_openElementHere (key : String) : KeepsDistinct (openElementHere key) := by
  intro ms ms' hopen hms
  rw [openElementHere] at hopen
  split at hopen
  · obtain rfl := Option.some.inj hopen
    exact hms.replace (hasDistinctKeys_tables.mpr ⟨List.forall_mem_nil _, distinct_nil⟩)
  · next earlier last hnode =>
    obtain rfl := Option.some.inj hopen
    obtain ⟨hearlier, hlast⟩ := hasDistinctKeys_tables.mp (hms.of_lookup hnode)
    refine hms.replace (hasDistinctKeys_tables.mpr ⟨?_, distinct_nil⟩)
    exact List.forall_mem_append.mpr ⟨hearlier, List.forall_mem_singleton.mpr hlast⟩
  · exact absurd hopen (Option.some_ne_none ms').symm

theorem keepsDistinct_openTable (front : List String) (key : String) :
    KeepsDistinct fun root => openTable root front key :=
  keepsDistinct_change (fun _ => keepsDistinct_openHere key) front .named

theorem keepsDistinct_openElement (front : List String) (key : String) :
    KeepsDistinct fun root => openElement root front key :=
  keepsDistinct_change (fun _ => keepsDistinct_openElementHere key) front .named

variable {value : Tree} (hvalue : value.HasDistinctKeys)
include hvalue

theorem keepsDistinct_putHere (isDotted : Bool) (key : String) (origin : Origin) :
    KeepsDistinct (putHere isDotted key value origin) := by
  intro ms ms' hput hms
  rw [putHere] at hput
  split at hput
  · exact absurd hput (Option.some_ne_none ms').symm
  · next hfree =>
    obtain rfl := Option.some.inj hput
    have hnone := Option.not_isSome_iff_eq_none.mp (not_or.mp hfree).2
    exact hms.concat (notMem_of_lookup hnone) hvalue

theorem keepsDistinct_put (front : List String) (key : String) :
    KeepsDistinct (put front key value) :=
  keepsDistinct_change (keepsDistinct_putHere hvalue _ key) front .named

theorem keepsDistinct_putAt (way front : List String) (key : String) :
    KeepsDistinct fun root => putAt root way front key value :=
  keepsDistinct_change (fun _ => keepsDistinct_put hvalue front key) way .named

end Table

/-! ### Values -/

theorem gives_orFail {α : Type} {P : α → Prop} {a? : Option α} (h : ∀ a ∈ a?, P a) :
    Gives P (orFail a?) := by
  cases a? with
  | none => exact gives_throw _
  | some a => exact gives_pure (h a rfl)

theorem gives_integer (negative : Bool) (size : ℕ) :
    Gives HasDistinctKeys (integer negative size) :=
  gives_ite (gives_ite (gives_pure trivial) (gives_throw _))
    (gives_ite (gives_pure trivial) (gives_throw _))

theorem gives_markedInteger? :
    Gives (fun t? : Option Tree => ∀ t ∈ t?, t.HasDistinctKeys) markedInteger? := by
  refine gives_bind_of (Q := fun s => ∀ t? ∈ s.1, ∀ t ∈ t?, t.HasDistinctKeys) ?_ fun s hs => ?_
  · refine gives_forIn (fun base s _ => gives_bind fun isNext => gives_ite ?_ ?_) _ (by simp)
    · refine gives_bind fun run => gives_bind_of (gives_integer false _) fun t ht => gives_pure ?_
      rintro _ ⟨⟩ _ ⟨⟩
      exact ht
    · exact gives_pure (by simp [ForInStep.value])
  · obtain ⟨t?, _⟩ := s
    cases t? with
    | some t? => exact gives_pure (hs t? rfl)
    | none => exact gives_pure (by simp)

theorem gives_decimal (negative : Bool) : Gives HasDistinctKeys (decimal negative) := by
  refine gives_bind fun whole => gives_guard fun _ => gives_bind fun fraction => ?_
  refine gives_bind fun power => gives_ite (gives_integer _ _) ?_
  split
  · exact gives_ite (gives_pure trivial) (gives_ite (gives_pure trivial) (gives_throw _))
  · exact gives_throw _

theorem gives_number : Gives HasDistinctKeys number := by
  refine gives_bind_of gives_markedInteger? fun t? ht => ?_
  cases t? with
  | some t => exact gives_pure (ht t rfl)
  | none =>
    refine gives_bind fun sign => gives_guard fun _ => gives_bind fun _ => ?_
    refine gives_ite (gives_pure trivial) (gives_bind fun _ => ?_)
    exact gives_ite (gives_pure trivial) (gives_decimal _)

theorem gives_figure : Gives HasDistinctKeys figure := by
  refine gives_bind fun d? => ?_
  cases d? with
  | some d =>
    refine gives_pure (Tree.hasDistinctKeys_map_iff.mpr ⟨List.nodup_singleton _, ?_⟩)
    exact List.forall_mem_singleton.mpr trivial
  | none => exact gives_number

section Nested

variable {element : Reader Tree} (h : Gives HasDistinctKeys element)
include h

theorem gives_listBody : Gives HasDistinctKeys (listBody element) := by
  refine gives_bind_of (Q := fun ts => ∀ t ∈ ts, t.HasDistinctKeys) ?_ fun ts hts =>
    gives_pure (Tree.hasDistinctKeys_list_reverse hts)
  refine gives_repeatWhile (fun ts hts => ?_) (List.forall_mem_nil _)
  refine gives_bind fun _ => gives_bind fun _ => gives_ite (gives_pure hts) ?_
  refine gives_bind_of h fun t ht => ?_
  have hts' : ∀ u ∈ t :: ts, u.HasDistinctKeys := List.forall_mem_cons.mpr ⟨ht, hts⟩
  refine gives_bind fun _ => gives_bind fun _ => gives_ite (gives_pure hts') ?_
  exact gives_bind fun _ => gives_pure hts'

theorem gives_member :
    Gives (fun m : KeyPath × Tree => m.2.HasDistinctKeys) (member element) :=
  gives_bind fun _ => gives_bind fun _ => gives_bind fun _ => gives_bind_of h fun _ ht =>
    gives_pure ht

theorem gives_mapBody : Gives HasDistinctKeys (mapBody element) := by
  refine gives_bind fun _ => gives_bind fun _ => gives_ite ?_ ?_
  · exact gives_pure Tree.hasDistinctKeys_map_nil
  · refine gives_bind_of (Q := Table.Distinct) ?_ fun ms hms => gives_pure hms
    refine gives_repeatWhile (fun ms hms => ?_) Table.distinct_nil
    refine gives_bind_of (gives_member h) fun m hm => ?_
    refine gives_bind_of (Q := Table.Distinct) (gives_orFail fun ms' hput => ?_) fun ms' hms' => ?_
    · exact Table.keepsDistinct_put hm _ _ hput hms
    · refine gives_bind fun _ => gives_bind fun _ => gives_ite (gives_pure hms') ?_
      exact gives_bind fun _ => gives_pure hms'

end Nested

theorem gives_valueWith {nested : Option (Reader Tree)}
    (h : ∀ element ∈ nested, Gives HasDistinctKeys element) :
    Gives HasDistinctKeys (valueWith nested) := by
  have hnested {body : Reader Tree → Reader Tree} (hbody : ∀ element,
      Gives HasDistinctKeys element → Gives HasDistinctKeys (body element)) :
      Gives HasDistinctKeys (nestedValue nested body) := by
    cases nested with
    | none => exact gives_throw _
    | some element => exact gives_bind fun _ => hbody element (h _ rfl)
  have hword (t : Tree) (ht : t.HasDistinctKeys) {word : String} {r : Reader Tree}
      (hr : Gives HasDistinctKeys r) :
      Gives HasDistinctKeys (do if ← Scan.accept word then return t else r) :=
    gives_bind fun _ => gives_ite (gives_pure ht) hr
  refine gives_bind fun c => ?_
  split
  · exact gives_bind fun _ => gives_pure trivial
  · exact gives_bind fun _ => gives_pure trivial
  · exact hnested fun _ => gives_listBody
  · exact hnested fun _ => gives_mapBody
  · refine gives_ite gives_figure ?_
    refine hword (.boolean true) trivial (hword (.boolean false) trivial ?_)
    exact hword .null trivial (hword .null trivial (gives_throw _))
  · exact gives_throw _

theorem gives_value (depth : ℕ) : Gives HasDistinctKeys (value depth) := by
  induction depth with
  | zero => exact gives_valueWith (by simp)
  | succ depth ih => exact gives_valueWith (by simpa using ih)

/-! ### Lines -/

variable {g : Gathering} (hg : Table.Distinct g.root)
include hg

theorem gives_header : Gives (fun g => Table.Distinct g.root) (header g) := by
  refine gives_bind fun isElement => gives_bind fun path => gives_bind fun _ => ?_
  refine gives_bind fun _ => ?_
  refine gives_bind_of (Q := Table.Distinct) (gives_orFail fun ms hopen => ?_) fun ms hms =>
    gives_pure hms
  split at hopen
  · exact Table.keepsDistinct_openElement _ _ hopen hg
  · exact Table.keepsDistinct_openTable _ _ hopen hg

theorem gives_memberLine : Gives (fun g => Table.Distinct g.root) (memberLine g) := by
  refine gives_bind_of (gives_member (gives_value maxDepth)) fun m hm => gives_bind fun _ => ?_
  refine gives_bind_of (Q := Table.Distinct) (gives_orFail fun ms hput => ?_) fun ms hms =>
    gives_pure hms
  exact Table.keepsDistinct_putAt hm _ _ _ hput hg

theorem gives_lineStep : Gives (fun p => Table.Distinct p.1.root) (lineStep g) := by
  refine gives_bind fun _ => gives_bind fun c => ?_
  cases c with
  | none => exact gives_pure hg
  | some c =>
    refine gives_ite (gives_bind fun _ => gives_pure hg) (gives_bind fun _ => gives_ite ?_ ?_)
    · exact gives_bind_of (gives_header hg) fun _ hg' => gives_pure hg'
    · exact gives_bind_of (gives_memberLine hg) fun _ hg' => gives_pure hg'

omit hg

theorem hasDistinctKeys_of_ofText {cs : List Char} {t : Tree} (h : ofText cs = some t) :
    t.HasDistinctKeys := by
  refine Gives.of_toOption_run' (P := HasDistinctKeys) ?_ h
  refine gives_bind fun _ => gives_bind_of (Q := fun g : Gathering => Table.Distinct g.root) ?_
    fun g hg => gives_pure hg
  exact gives_repeatWhile (fun _ => gives_lineStep) Table.distinct_nil

end CombatContent.Toml
