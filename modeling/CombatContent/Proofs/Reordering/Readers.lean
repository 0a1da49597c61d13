import CombatContent.Proofs.Reordering.Trees
import CombatContent.Typing.Shape
import Mathlib.Data.List.Pairwise
import Mathlib.Logic.Relator

/-!
# Readers and the order of members

A reader that answers for a tree also answers for the tree with its members permuted. For most
readers it is the same answer; in general the two answers are related. A record can be read in any
order of its members when what its fields do to it can be done in any order.

## Main definitions

* `Typing.ReadsAlike`: the answers of a reader for reordered trees are related.
* `Typing.Field.Commute`: two fields can be read in either order.
* `Typing.Shape.Orderly`: a record whose fields can be read in any order.

## Main results

* `Typing.Shape.Orderly.readsAlike`: an orderly record is read alike.
-/

namespace CombatContent.Typing

open Relator (LiftFun)

variable {α β γ ρ : Type}

/-! ### Answers -/

theorem bind_eq_ok_iff {x : Except Fault α} {f : α → Except Fault β} {b : β} :
    x >>= f = .ok b ↔ ∃ a, x = .ok a ∧ f a = .ok b := by
  cases x <;> simp [bind, Except.bind]

theorem map_eq_ok_iff {x : Except Fault α} {f : α → β} {b : β} :
    x.map f = .ok b ↔ ∃ a, x = .ok a ∧ f a = b := by
  cases x <;> simp [Except.map]

/-- The answers for a list are those for its elements. -/
theorem mapM_eq_ok_iff {f : γ → Except Fault α} {xs : List γ} {as : List α} :
    xs.mapM f = .ok as ↔ List.Forall₂ (fun x a => f x = .ok a) xs as := by
  induction xs generalizing as with
  | nil => simp [pure, Except.pure, eq_comm]
  | cons x xs ih =>
    simp only [List.mapM_cons, bind_eq_ok_iff, List.forall₂_cons_left_iff, ih]
    constructor
    · rintro ⟨a, ha, as, has, heq⟩
      exact ⟨a, as, ha, has, (Except.ok.inj heq).symm⟩
    · rintro ⟨a, as, ha, has, rfl⟩
      exact ⟨a, ha, as, has, rfl⟩

/-- Related elements have related answers, and so have lists of them. -/
theorem mapM_alike {R : γ → γ → Prop} {rel : α → α → Prop} {f : γ → Except Fault α}
    {xs ys : List γ} (h : List.Forall₂ R xs ys)
    (hf : ∀ x ∈ xs, ∀ y, R x y → ∀ a, f x = .ok a → ∃ b, f y = .ok b ∧ rel a b) {as : List α}
    (has : xs.mapM f = .ok as) : ∃ bs, ys.mapM f = .ok bs ∧ List.Forall₂ rel as bs := by
  simp only [mapM_eq_ok_iff] at has ⊢
  induction h generalizing as with
  | nil =>
    cases has
    exact ⟨[], .nil, .nil⟩
  | @cons x y xs ys hxy _ ih =>
    obtain ⟨a, as, ha, htail, rfl⟩ := List.forall₂_cons_left_iff.mp has
    obtain ⟨b, hb, hab⟩ := hf x (List.mem_cons_self ..) y hxy a ha
    obtain ⟨bs, hbs, hrel⟩ := ih (fun x hx => hf x (List.mem_cons_of_mem _ hx)) htail
    exact ⟨b :: bs, .cons hb hbs, .cons hab hrel⟩

/-- Permuted elements have permuted answers. -/
theorem mapM_perm {f : γ → Except Fault α} {xs ys : List γ} {as : List α} (h : xs.Perm ys)
    (has : xs.mapM f = .ok as) : ∃ bs, ys.mapM f = .ok bs ∧ as.Perm bs := by
  obtain ⟨bs, hbs, hperm⟩ := List.perm_comp_forall₂ h.symm (mapM_eq_ok_iff.mp has)
  exact ⟨bs, mapM_eq_ok_iff.mpr hbs, hperm.symm⟩

/-! ### Readers -/

/-- Where a reader answers for a tree, it answers for the tree with its members permuted, and the
answers are related. -/
def ReadsAlike (rel : α → α → Prop) (r : Reader α) : Prop :=
  ∀ ⦃t u : Tree⦄, t.Reordered u → t.HasDistinctKeys → ∀ ⦃a⦄, r t = .ok a →
    ∃ b, r u = .ok b ∧ rel a b

/-- A reader of neither lists nor maps reads alike. -/
theorem readsAlike_of_scalar {r : Reader α} (hlist : ∀ ts a, r (.list ts) ≠ .ok a)
    (hmap : ∀ ms a, r (.map ms) ≠ .ok a) : ReadsAlike Eq r := by
  rintro t u h - a ha
  cases h with
  | refl => exact ⟨a, ha, rfl⟩
  | list => exact absurd ha (hlist _ a)
  | map => exact absurd ha (hmap _ a)

@[simp]
theorem readsAlike_text : ReadsAlike Eq text :=
  readsAlike_of_scalar (by simp [text, refuse]) (by simp [text, refuse])

@[simp]
theorem readsAlike_boolean : ReadsAlike Eq boolean :=
  readsAlike_of_scalar (by simp [boolean, refuse]) (by simp [boolean, refuse])

@[simp]
theorem readsAlike_number : ReadsAlike Eq number :=
  readsAlike_of_scalar (by simp [number, refuse]) (by simp [number, refuse])

/-- What is made of related answers is related where it is made alike. -/
theorem ReadsAlike.map {rel : α → α → Prop} {rel' : β → β → Prop} {r : Reader α} {f : α → β}
    (hr : ReadsAlike rel r) (hf : LiftFun rel rel' f f) :
    ReadsAlike rel' fun t => (r t).map f := by
  intro t u h ht b hb
  obtain ⟨a, ha, rfl⟩ := map_eq_ok_iff.mp hb
  obtain ⟨a', ha', hrel⟩ := hr h ht ha
  exact ⟨f a', map_eq_ok_iff.mpr ⟨a', ha', rfl⟩, hf hrel⟩

@[simp]
theorem readsAlike_optional {r : Reader α} (hr : ReadsAlike Eq r) :
    ReadsAlike Eq (optional r) := by
  have hsome : ReadsAlike Eq fun t => (r t).map some := hr.map fun _ _ h => congrArg some h
  intro t u h ht a ha
  cases h with
  | refl => exact ⟨a, ha, rfl⟩
  | list h => exact hsome (.list h) ht ha
  | map h hperm => exact hsome (.map h hperm) ht ha

@[simp]
theorem readsAlike_sequence {r : Reader α} (hr : ReadsAlike Eq r) :
    ReadsAlike Eq (sequence r) := by
  intro t u h ht as has
  cases t with
  | list ts =>
    obtain ⟨us, rfl, halign⟩ := Tree.Reordered.list_iff.mp h
    rw [Tree.hasDistinctKeys_list_iff] at ht
    obtain ⟨bs, hbs, hrel⟩ := mapM_alike halign (fun t hmem u hu a ha => hr hu (ht t hmem) ha) has
    exact ⟨bs, hbs, List.forall₂_eq_eq_eq ▸ hrel⟩
  | _ => exact absurd has (by simp [sequence, refuse])

/-! ### Fields -/

/-- What two fields do to a record can be done in either order. -/
def Field.Commute (f g : Field ρ) : Prop :=
  ∀ ⦃t u p q⦄, f.read t = .ok p → g.read u = .ok q → ∀ x, q (p x) = p (q x)

instance : Std.Symm (@Field.Commute ρ) where
  symm _ _ h _ _ _ _ hp hq x := (h hq hp x).symm

theorem readsAlike_field {rel : ρ → ρ → Prop} {relα : α → α → Prop} {name : String} {r : Reader α}
    {put : α → ρ → ρ} (hr : ReadsAlike relα r)
    (hput : LiftFun relα (LiftFun rel rel) put put) :
    ReadsAlike (LiftFun rel rel) (field name r put).read :=
  hr.map hput

theorem readsAlike_requiredField {rel : ρ → ρ → Prop} {relα : α → α → Prop} {name : String}
    {r : Reader α} {put : α → ρ → ρ} (hr : ReadsAlike relα r)
    (hput : LiftFun relα (LiftFun rel rel) put put) :
    ReadsAlike (LiftFun rel rel) (requiredField name r put).read :=
  hr.map hput

/-! ### Records -/

namespace Shape

variable {shape : Shape ρ} {rel : ρ → ρ → Prop} {ms ns : Members} {m n : String × Tree}

/-- A record that can be read in any order of its members: its fields read alike and commute. -/
structure Orderly (rel : ρ → ρ → Prop) (shape : Shape ρ) : Prop where
  start : rel shape.start shape.start
  reads : ∀ f ∈ shape.fields, ReadsAlike (LiftFun rel rel) f.read
  commute : shape.fields.Pairwise Field.Commute

/-- What a member does to the record. -/
def change (shape : Shape ρ) (m : String × Tree) : Except Fault (ρ → ρ) :=
  match shape.field? m.1 with
  | none => .ok id
  | some f => f.read m.2

theorem readMember_eq_map (x : ρ) (m : String × Tree) :
    shape.readMember x m = (shape.change m).map fun p => p x := by
  rw [readMember, change]
  cases shape.field? m.1 <;> rfl

/-- The record that members are read into, from the first on. -/
theorem foldlM_readMember_cons {x z : ρ} :
    (m :: ms).foldlM shape.readMember x = .ok z ↔
      ∃ p, shape.change m = .ok p ∧ ms.foldlM shape.readMember (p x) = .ok z := by
  simp only [List.foldlM_cons, bind_eq_ok_iff, readMember_eq_map, map_eq_ok_iff]
  constructor
  · rintro ⟨_, ⟨p, hp, rfl⟩, hz⟩
    exact ⟨p, hp, hz⟩
  · rintro ⟨p, hp, hz⟩
    exact ⟨_, ⟨p, hp, rfl⟩, hz⟩

/-- A map is read if its members are and no field is missing. -/
theorem readMap_eq_ok_iff {x : ρ} :
    shape.readMap ms = .ok x ↔ shape.readMembers ms = .ok x ∧ shape.missing? ms = none := by
  rw [readMap]
  cases shape.readMembers ms with
  | error fault => simp
  | ok y => cases shape.missing? ms <;> simp

theorem name_of_field?_eq_some {key : String} {f : Field ρ} (h : shape.field? key = some f) :
    f.name = key := by
  simpa using List.find?_some h

namespace Orderly

variable (h : shape.Orderly rel)
include h

/-- Members of different keys can be read in either order. -/
theorem change_comm {p q : ρ → ρ} (hne : m.1 ≠ n.1) (hp : shape.change m = .ok p)
    (hq : shape.change n = .ok q) (x : ρ) : q (p x) = p (q x) := by
  rw [change] at hp hq
  cases hf : shape.field? m.1 with
  | none =>
    rw [hf] at hp
    obtain rfl := Except.ok.inj hp
    rfl
  | some f =>
    cases hg : shape.field? n.1 with
    | none =>
      rw [hg] at hq
      obtain rfl := Except.ok.inj hq
      rfl
    | some g =>
      rw [hf] at hp
      rw [hg] at hq
      have hfg : f ≠ g := by
        rintro rfl
        exact hne ((name_of_field?_eq_some hf).symm.trans (name_of_field?_eq_some hg))
      have hcomm : f.Commute g :=
        h.commute.forall (List.mem_of_find?_eq_some hf) (List.mem_of_find?_eq_some hg) hfg
      exact hcomm hp hq x

/-- A member whose value is permuted does what it did before. -/
theorem change_alike {p : ρ → ρ} (hmn : Tree.MemberReordered m n) (hm : m.2.HasDistinctKeys)
    (hp : shape.change m = .ok p) : ∃ q, shape.change n = .ok q ∧ LiftFun rel rel p q := by
  obtain ⟨hkey, hvalue⟩ := Tree.memberReordered_iff.mp hmn
  rw [change] at hp ⊢
  rw [← hkey]
  cases hf : shape.field? m.1 with
  | none =>
    rw [hf] at hp
    obtain rfl := Except.ok.inj hp
    exact ⟨id, rfl, fun _ _ hxy => hxy⟩
  | some f =>
    rw [hf] at hp
    exact h.reads f (List.mem_of_find?_eq_some hf) hvalue hm hp

/-- Permuted members are read into the same record. -/
theorem foldlM_perm (hperm : ms.Perm ns) (hms : ms.keys.Nodup) {x z : ρ}
    (hz : ms.foldlM shape.readMember x = .ok z) : ns.foldlM shape.readMember x = .ok z := by
  induction hperm generalizing x with
  | nil => exact hz
  | cons m _ ih =>
    obtain ⟨p, hp, hz⟩ := foldlM_readMember_cons.mp hz
    exact foldlM_readMember_cons.mpr ⟨p, hp, ih (List.nodup_cons.mp hms).2 hz⟩
  | swap m n ms =>
    simp only [foldlM_readMember_cons] at hz ⊢
    obtain ⟨p, hp, q, hq, hz⟩ := hz
    refine ⟨q, hq, p, hp, ?_⟩
    have hne : n.1 ≠ m.1 := fun heq =>
      (List.nodup_cons.mp hms).1 (List.mem_cons.mpr (.inl heq))
    rwa [← h.change_comm hne hp hq x]
  | trans hperm _ ih ih' =>
    exact ih' ((hperm.map _).nodup_iff.mp hms) (ih hms hz)

/-- Members whose values are permuted are read into related records. -/
theorem foldlM_alike (halign : List.Forall₂ Tree.MemberReordered ms ns)
    (hms : ∀ m ∈ ms, m.2.HasDistinctKeys) {x y z : ρ} (hxy : rel x y)
    (hz : ms.foldlM shape.readMember x = .ok z) :
    ∃ z', ns.foldlM shape.readMember y = .ok z' ∧ rel z z' := by
  induction halign generalizing x y with
  | nil =>
    obtain rfl := Except.ok.inj hz
    exact ⟨y, rfl, hxy⟩
  | cons hmn _ ih =>
    obtain ⟨hm, hms⟩ := List.forall_mem_cons.mp hms
    obtain ⟨p, hp, hz⟩ := foldlM_readMember_cons.mp hz
    obtain ⟨q, hq, hpq⟩ := h.change_alike hmn hm hp
    obtain ⟨z', hz', hrel⟩ := ih hms (hpq hxy) hz
    exact ⟨z', foldlM_readMember_cons.mpr ⟨q, hq, hz'⟩, hrel⟩

omit h in
/-- The elements of a list are read into related records. -/
theorem readElements_alike {ts us : List Tree} {fs : List (Field ρ)} {count : ℕ}
    (hfs : ∀ f ∈ fs, ReadsAlike (LiftFun rel rel) f.read)
    (halign : List.Forall₂ Tree.Reordered ts us) (hts : ∀ t ∈ ts, t.HasDistinctKeys) {x y z : ρ}
    (hxy : rel x y) (hz : shape.readElements count fs ts x = .ok z) :
    ∃ z', shape.readElements count fs us y = .ok z' ∧ rel z z' := by
  induction fs generalizing ts us x y with
  | nil =>
    cases halign with
    | nil =>
      obtain rfl := Except.ok.inj hz
      exact ⟨y, rfl, hxy⟩
    | cons => exact absurd hz (by simp [readElements])
  | cons f fs ih =>
    cases halign with
    | nil =>
      rw [readElements] at hz ⊢
      split at hz
      · exact absurd hz (by simp)
      · next hrequired =>
        obtain rfl := Except.ok.inj hz
        exact ⟨y, if_neg hrequired, hxy⟩
    | @cons t u ts us htu halign =>
      obtain ⟨ht, hts⟩ := List.forall_mem_cons.mp hts
      obtain ⟨hf, hfs⟩ := List.forall_mem_cons.mp hfs
      rw [readElements] at hz
      cases hp : f.read t with
      | error fault => exact absurd hz (by simp [hp])
      | ok p =>
        rw [hp] at hz
        obtain ⟨q, hq, hpq⟩ := hf htu ht hp
        rw [readElements, hq]
        exact ih hfs halign hts (hpq hxy) hz

/-- An orderly record is read alike from trees with permuted members. -/
theorem readsAlike : ReadsAlike rel shape.read := by
  intro t u htu ht z hz
  cases t with
  | map ms =>
    obtain ⟨ns', rfl, ns, halign, hperm⟩ := Tree.Reordered.map_iff.mp htu
    obtain ⟨hkeys, hvalues⟩ := Tree.hasDistinctKeys_map_iff.mp ht
    have hmissing : shape.missing? ns' = shape.missing? ms := by
      simp only [missing?, Tree.MembersReordered.has_eq ⟨ns, halign, hperm⟩]
    simp only [read, readMap_eq_ok_iff, hmissing] at hz ⊢
    obtain ⟨z', hz', hrel⟩ := h.foldlM_alike halign hvalues h.start hz.1
    have hnodup : ns.keys.Nodup := Tree.keys_eq_of_forall₂ halign ▸ hkeys
    exact ⟨z', ⟨h.foldlM_perm hperm hnodup hz', hz.2⟩, hrel⟩
  | list ts =>
    obtain ⟨us, rfl, halign⟩ := Tree.Reordered.list_iff.mp htu
    rw [Tree.hasDistinctKeys_list_iff] at ht
    rw [read, readList] at hz ⊢
    rw [← halign.length_eq]
    exact readElements_alike h.reads halign ht h.start hz
  | _ => exact absurd hz (by simp [read, refuse])

end Orderly

end Shape

end CombatContent.Typing
