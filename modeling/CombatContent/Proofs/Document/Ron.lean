import CombatContent.Ron.Value
import CombatContent.Proofs.Document.Answers
import CombatContent.Proofs.Document.DistinctKeys

/-!
# Keys of RON documents

A repeated key of a map replaces the value that came before, and a struct of a document has one
field, so that every map has one member per key.

## Main results

* `Ron.gives_value`: the values that are read.
* `Ron.hasDistinctKeys_of_ofText`: whole texts.
-/

namespace CombatContent.Ron

open Scan (Gives gives_pure gives_throw gives_bind gives_bind_of gives_ite gives_forIn
  gives_repeatWhile)
open CombatContent.Tree (HasDistinctKeys)

theorem gives_float : Gives HasDistinctKeys float := by
  refine gives_bind_of (Q := fun s => ∀ t ∈ s.1, t.HasDistinctKeys) ?_ fun s hs => ?_
  · refine gives_forIn (fun word s _ => gives_bind fun isNext => ?_) _ (by simp)
    refine gives_ite (gives_pure ?_) (gives_pure ?_)
    · rintro t ⟨⟩
      trivial
    · simp [ForInStep.value]
  · obtain ⟨t?, _⟩ := s
    cases t? with
    | some t => exact gives_pure (hs t rfl)
    | none =>
      refine gives_bind fun word => ?_
      split
      · exact gives_pure (by split <;> trivial)
      · exact gives_throw _

theorem gives_number : Gives HasDistinctKeys number := by
  refine gives_bind fun rest => gives_ite gives_float ?_
  split
  · exact gives_bind fun _ => gives_pure trivial
  · exact gives_float

theorem gives_items {α : Type} {P : α → Prop} {close : Char} {item : Reader α} (h : Gives P item) :
    Gives (fun as : List α => ∀ a ∈ as, P a) (items close item) := by
  refine gives_bind_of (Q := fun state => ∀ a ∈ state.2, P a) ?_ fun state hstate =>
    gives_bind fun _ => gives_bind fun _ => gives_pure fun a ha => hstate a (List.mem_reverse.mp ha)
  refine gives_repeatWhile (fun state hstate => gives_bind fun more => ?_) (List.forall_mem_nil _)
  refine gives_ite (gives_bind_of h fun a ha => gives_bind fun _ => ?_) (gives_pure hstate)
  exact gives_pure (List.forall_mem_cons.mpr ⟨ha, hstate⟩)

theorem gives_parts {α : Type} {P : α → Prop} {inside : Inside} {close : Char}
    {item : Reader Tree → Reader α} (h : ∀ part ∈ inside.part?, Gives P (item part)) :
    Gives (fun as : List α => ∀ a ∈ as, P a) (inside.parts close item) := by
  rw [Inside.parts]
  cases hpart : inside.part? with
  | none => exact gives_throw _
  | some part => exact gives_items (h part hpart)

theorem gives_memberValue {nested : Reader Tree} (h : Gives HasDistinctKeys nested) :
    Gives HasDistinctKeys (memberValue nested) :=
  gives_bind fun _ => gives_bind fun _ => gives_bind fun _ => h

theorem hasDistinctKeys_gatherMembers {ms : List (String × Tree)}
    (h : ∀ m ∈ ms, m.2.HasDistinctKeys) : (Tree.map (gatherMembers ms)).HasDistinctKeys :=
  List.foldlRecOn ms _ (motive := fun found => (Tree.map found).HasDistinctKeys)
    Tree.hasDistinctKeys_map_nil fun _ hfound m hm => Tree.hasDistinctKeys_map_put hfound (h m hm)

theorem gives_someValue {bareSome : Bool} {held : Reader Tree} (h : Gives HasDistinctKeys held) :
    Gives HasDistinctKeys (someValue bareSome held) := by
  refine gives_bind fun _ => gives_bind fun _ => gives_ite ?_ (gives_ite h (gives_throw _))
  refine gives_bind fun _ => gives_bind_of h fun t ht => ?_
  exact gives_bind fun _ => gives_bind fun _ => gives_pure ht

section Values

variable {inside : Inside} (hheld : Gives HasDistinctKeys inside.held)
  (hparts : ∀ part ∈ inside.part?, Gives HasDistinctKeys part)
include hparts

theorem gives_parenthesised : Gives HasDistinctKeys (parenthesised .document inside) := by
  refine gives_bind fun isStruct => gives_ite ?_ ?_
  · refine gives_bind_of (gives_parts (P := fun m => m.2.HasDistinctKeys) fun part hpart => ?_)
      fun ms hms => ?_
    · exact gives_bind fun key => gives_bind_of (gives_memberValue (hparts part hpart)) fun t ht =>
        gives_pure ht
    · by_cases hlength : 1 < ms.length
      · rw [if_pos (by simpa using hlength)]
        exact gives_bind_of (Q := fun _ => False) (gives_throw _) fun _ h => h.elim
      · rw [if_neg (by simpa using hlength)]
        -- A struct of at most one field cannot repeat a key.
        have hkeys : (Members.keys ms).Nodup := by
          match ms with
          | [] => exact List.nodup_nil
          | [m] => exact List.nodup_singleton _
          | _ :: _ :: _ => simp at hlength
        exact gives_pure (Tree.hasDistinctKeys_map_iff.mpr ⟨hkeys, hms⟩)
  · exact gives_bind_of (gives_parts hparts) fun ts hts =>
      gives_pure (Tree.hasDistinctKeys_list_iff.mpr hts)

theorem gives_plainValue : Gives HasDistinctKeys (plainValue .document inside) := by
  refine gives_bind fun c => ?_
  split
  · exact gives_bind fun _ => gives_parenthesised hparts
  · exact gives_bind fun _ => gives_bind_of (gives_parts hparts) fun ts hts =>
      gives_pure (Tree.hasDistinctKeys_list_iff.mpr hts)
  · refine gives_bind fun _ => gives_bind_of
      (gives_parts (P := fun m => m.2.HasDistinctKeys) fun part hpart => ?_) fun ms hms =>
        gives_pure (hasDistinctKeys_gatherMembers hms)
    exact gives_bind fun key => gives_bind_of (gives_memberValue (hparts part hpart)) fun t ht =>
      gives_pure ht
  · exact gives_bind fun _ => gives_pure trivial
  · exact gives_bind fun _ => gives_pure trivial
  · exact gives_bind fun _ => gives_pure trivial
  · exact gives_ite gives_number (gives_throw _)
  · exact gives_throw _

include hheld

theorem gives_valueWith (bareSome : Bool) :
    Gives HasDistinctKeys (valueWith ⟨.document, bareSome⟩ inside) := by
  have hcase {isNext : Reader Bool} (t : Tree) (ht : t.HasDistinctKeys) {r : Reader Tree}
      (hr : Gives HasDistinctKeys r) :
      Gives HasDistinctKeys (do if ← isNext then return t else r) :=
    gives_bind fun _ => gives_ite (gives_pure ht) hr
  refine hcase (.boolean true) trivial (hcase (.boolean false) trivial ?_)
  refine gives_bind fun isSome => gives_ite (gives_someValue hheld) ?_
  refine hcase .null trivial (hcase .null trivial ?_)
  refine hcase .null trivial (hcase .null trivial (hcase .null trivial ?_))
  refine gives_bind fun name => ?_
  split
  · refine gives_bind fun _ => gives_bind fun opens => ?_
    exact gives_ite (gives_parenthesised hparts) (gives_pure trivial)
  · exact gives_plainValue hparts

end Values

theorem gives_value (bareSome : Bool) (steps : ℕ) :
    Gives HasDistinctKeys (value ⟨.document, bareSome⟩ steps) := by
  induction steps using value.induct with
  | case1 => exact gives_valueWith (gives_throw _) (by simp) bareSome
  | case2 ih =>
    refine gives_valueWith ih ?_ bareSome
    rintro part ⟨⟩
    exact gives_throw _
  | case3 steps ih ih' =>
    refine gives_valueWith ih ?_ bareSome
    rintro part ⟨⟩
    exact ih'

theorem hasDistinctKeys_of_ofText {cs : List Char} {t : Tree} (h : ofText cs = some t) :
    t.HasDistinctKeys := by
  refine Gives.of_toOption_run' (P := HasDistinctKeys) ?_ h
  refine gives_bind fun asked => gives_bind_of (gives_value _ maxSteps) fun t ht => ?_
  refine gives_bind fun _ => gives_bind fun _ => gives_ite (gives_pure ht) ?_
  exact gives_bind fun _ => gives_pure ht

end CombatContent.Ron
