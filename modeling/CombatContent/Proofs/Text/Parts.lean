import CombatContent.Text.Lines
import Mathlib.Data.List.Basic
import Mathlib.Data.Set.Operations

/-!
# Texts and lists in parts

A list that is written part by part is taken apart again where each part shows how far it goes: its
items are of one kind and what follows it is not, or a closing item stands behind it, or a head
tells whether it is there at all.

## Main definitions

* `Text.FeedFree`: texts without line feeds.

## Main results

* `Text.append_inj_of_forall`, `Text.append_cons_inj`, `Text.map_append_inj`: a part, and what
  follows it.
* `Text.optional_append_inj`: a part that may be missing.
* `Text.eq_of_unlines_eq`: lines without line feeds are read from their text.
-/

namespace CombatContent.Text

variable {α β : Type} {xs ys us vs : List α}

/-! ### Parts of lists -/

/-- A part ends in front of the first item that is not of its kind. -/
theorem append_inj_of_forall {p : α → Prop} (hxs : ∀ x ∈ xs, p x) (hys : ∀ y ∈ ys, p y)
    (hus : ∀ a ∈ us.head?, ¬p a) (hvs : ∀ a ∈ vs.head?, ¬p a) (h : xs ++ us = ys ++ vs) :
    xs = ys ∧ us = vs := by
  induction xs generalizing ys with
  | nil =>
    cases ys with
    | nil => exact ⟨rfl, h⟩
    | cons y ys =>
      rw [List.nil_append] at h
      rw [h] at hus
      exact absurd (hys y (List.mem_cons_self ..)) (hus y rfl)
  | cons x xs ih =>
    cases ys with
    | nil =>
      rw [List.nil_append] at h
      rw [← h] at hvs
      exact absurd (hxs x (List.mem_cons_self ..)) (hvs x rfl)
    | cons y ys =>
      obtain ⟨rfl, hrest⟩ := List.cons.inj h
      obtain ⟨rfl, rfl⟩ := ih (List.forall_mem_cons.mp hxs).2 (List.forall_mem_cons.mp hys).2 hrest
      exact ⟨rfl, rfl⟩

/-- A part ends in front of its closing item. -/
theorem append_cons_inj {a : α} (hxs : a ∉ xs) (hys : a ∉ ys) (h : xs ++ a :: us = ys ++ a :: vs) :
    xs = ys ∧ us = vs := by
  have hne {zs : List α} (hzs : a ∉ zs) : ∀ z ∈ zs, z ≠ a := fun z hz heq => hzs (heq ▸ hz)
  obtain ⟨rfl, hrest⟩ := append_inj_of_forall (hne hxs) (hne hys) (by simp) (by simp) h
  exact ⟨rfl, (List.cons.inj hrest).2⟩

/-- Parts with a separator between them are told apart if the item that the separator begins with is
in no part, and closes the last one. -/
theorem intercalate_append_inj {a : α} {sep : List α} {xss yss : List (List α)}
    (hlength : xss.length = yss.length) (hxss : ∀ xs ∈ xss, a ∉ xs) (hyss : ∀ ys ∈ yss, a ∉ ys)
    (h : (a :: sep).intercalate xss ++ a :: us = (a :: sep).intercalate yss ++ a :: vs) :
    xss = yss := by
  induction xss generalizing yss with
  | nil => exact (List.length_eq_zero_iff.mp hlength.symm).symm
  | cons xs xss ih =>
    obtain ⟨ys, yss, rfl⟩ := List.exists_cons_of_length_eq_add_one hlength.symm
    obtain ⟨hxs, hxtails⟩ := List.forall_mem_cons.mp hxss
    obtain ⟨hys, hytails⟩ := List.forall_mem_cons.mp hyss
    have htails : xss.length = yss.length := by simpa using hlength
    rcases xss with _ | ⟨xs', xss⟩
    · obtain rfl := List.length_eq_zero_iff.mp htails.symm
      rw [List.intercalate_singleton, List.intercalate_singleton] at h
      rw [(append_cons_inj hxs hys h).1]
    · obtain ⟨ys', yss, rfl⟩ := List.exists_cons_of_length_eq_add_one htails.symm
      rw [List.intercalate_cons_cons, List.intercalate_cons_cons, List.append_assoc,
        List.append_assoc, List.append_assoc, List.append_assoc, List.cons_append,
        List.cons_append] at h
      obtain ⟨rfl, hrest⟩ := append_cons_inj hxs hys h
      rw [ih htails hxtails hytails (List.append_cancel_left hrest)]

/-- A part whose items are written one by one ends in front of what is written for no item. -/
theorem map_append_inj {f : α → β} (hf : Function.Injective f) {us vs : List β}
    (hus : ∀ b ∈ us.head?, b ∉ Set.range f) (hvs : ∀ b ∈ vs.head?, b ∉ Set.range f)
    (h : xs.map f ++ us = ys.map f ++ vs) : xs = ys ∧ us = vs := by
  have hwritten (zs : List α) : ∀ b ∈ zs.map f, b ∈ Set.range f :=
    List.forall_mem_map.mpr fun z _ => Set.mem_range_self z
  obtain ⟨hmap, rfl⟩ := append_inj_of_forall (hwritten xs) (hwritten ys) hus hvs h
  exact ⟨hf.list_map hmap, rfl⟩

/-- Whether a part with a head is there shows in the head. -/
theorem optional_append_inj {missing missing' : Prop} [Decidable missing] [Decidable missing']
    {a : α} (hus : a ∉ us.head?) (hvs : a ∉ vs.head?)
    (h : (if missing then [] else a :: xs) ++ us = (if missing' then [] else a :: ys) ++ vs) :
    missing ∧ missing' ∧ us = vs ∨ ¬missing ∧ ¬missing' ∧ xs ++ us = ys ++ vs := by
  by_cases hx : missing <;> by_cases hy : missing'
  · rw [if_pos hx, if_pos hy] at h
    exact .inl ⟨hx, hy, h⟩
  · rw [if_pos hx, if_neg hy, List.nil_append] at h
    exact absurd (h ▸ rfl) hus
  · rw [if_neg hx, if_pos hy, List.nil_append] at h
    exact absurd (h ▸ rfl) hvs
  · rw [if_neg hx, if_neg hy] at h
    exact .inr ⟨hx, hy, (List.cons.inj h).2⟩

theorem forall_mem_optional {missing : Prop} [Decidable missing] {p : α → Prop}
    (h : ∀ x ∈ xs, p x) : ∀ x ∈ if missing then [] else xs, p x := by
  split
  · exact List.forall_mem_nil _
  · exact h

/-! ### Lines of texts -/

/-- A text without line feeds. -/
def FeedFree (s : String) : Prop := '\n' ∉ s.toList

instance (s : String) : Decidable (FeedFree s) := inferInstanceAs (Decidable ('\n' ∉ s.toList))

/-- The characters of a literal are looked at as they stand in it. -/
theorem feedFree_ofList {cs : List Char} (h : '\n' ∉ cs) : FeedFree (String.ofList cs) := by
  rwa [FeedFree, String.toList_ofList]

@[simp]
theorem feedFree_append_iff {s t : String} : FeedFree (s ++ t) ↔ FeedFree s ∧ FeedFree t := by
  simp [FeedFree]

/-- A text in parts is without line feeds if its parts are, what separates them being so. -/
theorem feedFree_intercalate_iff {sep : String} {ss : List String} (hsep : FeedFree sep) :
    FeedFree (sep.intercalate ss) ↔ ∀ s ∈ ss, FeedFree s := by
  induction ss with
  | nil => simp [FeedFree]
  | cons s ss ih =>
    cases ss with
    | nil => simp
    | cons s' ss =>
      rw [String.intercalate_cons_cons, feedFree_append_iff, feedFree_append_iff, ih, and_assoc,
        and_iff_right hsep]
      exact List.forall_mem_cons.symm

/-- Lines without line feeds in them are read from their text. -/
theorem eq_of_unlines_eq {ls ls' : List String} (hls : ∀ line ∈ ls, FeedFree line)
    (hls' : ∀ line ∈ ls', FeedFree line) (h : unlines ls = unlines ls') : ls = ls' := by
  have hlines := congrArg (fun s => lines (s.toList ++ [])) h
  rw [lines_unlines_append hls, lines_unlines_append hls', List.append_cancel_right_eq] at hlines
  exact Function.Injective.list_map (fun _ _ => String.toList_injective) hlines

end CombatContent.Text
