import CombatContent.Json.Value
import CombatContent.Proofs.Document.Answers
import CombatContent.Proofs.Document.DistinctKeys

/-!
# Keys of JSON values

A repeated key replaces the value that came before, so that every map has one member per key.

## Main results

* `Json.gives_value`: the values that are read.
* `Json.hasDistinctKeys_of_ofText`: whole texts.
-/

namespace CombatContent.Json

open Scan (Gives gives_pure gives_throw gives_bind gives_bind_of gives_ite gives_guard
  gives_repeatWhile)
open CombatContent.Tree (HasDistinctKeys)

theorem hasDistinctKeys_integerOrFloat (negative : Bool) (significand : ℕ) :
    (integerOrFloat negative significand).HasDistinctKeys := by
  rw [integerOrFloat]
  split_ifs <;> trivial

theorem gives_number (negative : Bool) : Gives HasDistinctKeys (number negative) := by
  have hinteger (n : ℕ) : Gives HasDistinctKeys (pure (integerOrFloat negative n) : Reader Tree) :=
    gives_pure (hasDistinctKeys_integerOrFloat negative n)
  have hfloat (r : Reader Float) : Gives HasDistinctKeys (do return .float (← r)) :=
    gives_bind fun _ => gives_pure trivial
  refine gives_bind fun c => ?_
  split
  · exact gives_bind fun _ => gives_throw _
  · refine gives_bind fun _ => gives_bind fun d => ?_
    split
    · exact hfloat _
    · exact hfloat _
    · exact hfloat _
    · exact gives_ite (gives_bind fun _ => gives_throw _) (hinteger 0)
    · exact hinteger 0
  · refine gives_guard fun _ => gives_bind fun run => gives_bind fun d => ?_
    split
    · exact hfloat _
    · exact hfloat _
    · exact hfloat _
    · exact gives_ite (hinteger _) (hfloat _)

theorem gives_scalar (first : Char) : Gives HasDistinctKeys (scalar first) := by
  have hword (letters : List Char) {t : Tree} (ht : t.HasDistinctKeys) :
      Gives HasDistinctKeys (do Scan.advance; word letters; return t) :=
    gives_bind fun _ => gives_bind fun _ => gives_pure ht
  refine gives_ite (hword _ trivial) (gives_ite (hword _ trivial) (gives_ite (hword _ trivial) ?_))
  refine gives_ite (gives_bind fun _ => gives_number true) (gives_ite (gives_number false) ?_)
  refine gives_ite (gives_bind fun _ => gives_bind fun _ => gives_pure trivial) ?_
  exact gives_bind fun _ => gives_throw _

theorem gives_listBody {element : Reader Tree} (h : Gives HasDistinctKeys element) :
    Gives HasDistinctKeys (listBody element) := by
  refine gives_bind_of (Q := fun ts => ∀ t ∈ ts, t.HasDistinctKeys) ?_ fun ts hts =>
    gives_bind fun _ => gives_pure (Tree.hasDistinctKeys_list_reverse hts)
  refine gives_repeatWhile (fun ts hts => gives_bind fun turn => ?_) (List.forall_mem_nil _)
  cases turn with
  | close => exact gives_pure hts
  | element => exact gives_bind_of h fun t ht => gives_pure (List.forall_mem_cons.mpr ⟨ht, hts⟩)

theorem gives_mapBody {element : Reader Tree} (h : Gives HasDistinctKeys element) :
    Gives HasDistinctKeys (mapBody element) := by
  refine gives_bind_of (Q := fun ms => (Tree.map ms).HasDistinctKeys) ?_ fun ms hms =>
    gives_bind fun _ => gives_pure hms
  refine gives_repeatWhile (fun ms hms => gives_bind fun turn => ?_) Tree.hasDistinctKeys_map_nil
  cases turn with
  | close => exact gives_pure hms
  | key =>
    refine gives_bind fun _ => gives_bind fun key => gives_bind fun _ => ?_
    exact gives_bind_of h fun t ht => gives_pure (Tree.hasDistinctKeys_map_put hms ht)

theorem gives_valueWith {nested : Option (Reader Tree)}
    (h : ∀ element ∈ nested, Gives HasDistinctKeys element) :
    Gives HasDistinctKeys (valueWith nested) := by
  refine gives_bind fun _ => gives_bind fun c => ?_
  cases c with
  | none => exact gives_bind fun _ => gives_throw _
  | some c =>
    refine gives_ite ?_ (gives_scalar c)
    cases nested with
    | none => exact gives_bind fun _ => gives_throw _
    | some element =>
      exact gives_bind fun _ => gives_ite (gives_listBody (h _ rfl)) (gives_mapBody (h _ rfl))

theorem gives_value (depth : ℕ) : Gives HasDistinctKeys (value depth) := by
  induction depth with
  | zero => exact gives_valueWith (by simp)
  | succ depth ih => exact gives_valueWith (by simpa using ih)

theorem hasDistinctKeys_of_ofText {cs : List Char} {t : Tree} (h : ofText cs = .ok t) :
    t.HasDistinctKeys := by
  refine Gives.of_run' (P := HasDistinctKeys) ?_ h
  exact gives_bind_of (gives_value maxDepth) fun t ht => gives_bind fun _ => gives_pure ht

end CombatContent.Json
