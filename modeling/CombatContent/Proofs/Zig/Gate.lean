import CombatContent.Proofs.Content.Drafts
import CombatContent.Proofs.Enumeration.GeneratedBlock
import Mathlib.Data.String.Basic

/-!
# The gate of generation

A file is generated just if no record is malformed and the technique ids agree with the committed
ones, which they do if there are none on either side to compare. A malformed record is reported
before any drift, and it is that of the first draft with a fault. Drift is reported as the two
differences of the sets, which change places when the sets do. The file that passes the gate
declares the ids that were compared.

## Main definitions

* `Zig.IsFirstMalformed`: the malformed record of the first draft with a fault.
* `Zig.IsDifference`: what drift says of two sets of ids.
* `Zig.HasEnumeration`: a text with the enumeration of some ids.

## Main results

* `Zig.isFirstMalformed_of_malformed_eq_cons`, `Zig.isDifference_diff`,
  `Zig.hasEnumeration_render`.
* `Zig.generate_gate`: the gate of a document.
-/

namespace CombatContent.Zig

open Text Enumeration

/-! ### Refusals and enumerations -/

/-- A malformed record is that of the first draft of a document with a fault, in dataset order and
then in the order of the drafts. -/
def IsFirstMalformed (document : Tree) (m : Malformed) : Prop :=
  ∃ before draft after, Content.drafts document = before ++ (m.dataset, draft) :: after ∧
    (∀ p ∈ before, Content.fault? p.1 p.2 = none) ∧
    Content.fault? m.dataset draft = some m.fault ∧ m.id = draft.id

/-- Drift says what the current ids lack of the committed ones and what they have besides, each in
ascending order, and something of either. -/
structure IsDifference (drift : Drift) (current committed : NameSet) : Prop where
  mem_missing : ∀ id, id ∈ drift.missing ↔ id ∈ committed ∧ id ∉ current
  mem_extra : ∀ id, id ∈ drift.extra ↔ id ∈ current ∧ id ∉ committed
  ascending_missing : drift.missing.toList.Pairwise (· < ·)
  ascending_extra : drift.extra.toList.Pairwise (· < ·)
  disjoint : ∀ id, ¬ (id ∈ drift.missing ∧ id ∈ drift.extra)
  nonempty : drift.missing.toList ≠ [] ∨ drift.extra.toList ≠ []
  restores : ∀ id, (id ∈ committed ∧ id ∉ drift.missing) ∨ id ∈ drift.extra ↔ id ∈ current

/-- After the heading of a generated file, a text enumerates ids, each on a line of its own. -/
def HasEnumeration (text : String) (ids : List String) : Prop :=
  ∃ rest, text.toList =
    (unlines (heading ++ "pub const GeneratedTechniqueID = enum \x7b" ::
      (ids.map (fun id => "    " ++ identifier id ++ ",") ++ ["\x7d;"]))).toList ++ rest

variable {document : Tree} {c : Content} {current committed : NameSet}

theorem isFirstMalformed_of_malformed_eq_cons {m : Malformed} {ms : List Malformed}
    (h : (Content.ofDocument document).malformed = m :: ms) : IsFirstMalformed document m := by
  rw [Content.malformed_ofDocument, List.filterMap_eq_cons_iff] at h
  obtain ⟨before, ⟨d, draft⟩, after, hdrafts, hbefore, hdraft, -⟩ := h
  obtain ⟨hfault, rfl, hid⟩ := Content.malformed?_eq_some_iff.mp hdraft
  refine ⟨before, draft, after, hdrafts, fun p hp => ?_, hfault, hid⟩
  exact Option.map_eq_none_iff.mp (hbefore p hp)

/-- The two differences of different sets make drift. -/
theorem isDifference_diff (h : committed ≠ current) :
    IsDifference ⟨committed.diff current, current.diff committed⟩ current committed where
  mem_missing _ := NameSet.mem_diff
  mem_extra _ := NameSet.mem_diff
  ascending_missing := (committed.diff current).ascending
  ascending_extra := (current.diff committed).ascending
  disjoint id hid := (NameSet.mem_diff.mp hid.1).2 (NameSet.mem_diff.mp hid.2).1
  nonempty := by
    by_contra hempty
    rw [not_or, not_not, not_not] at hempty
    refine h (NameSet.ext fun id => ?_)
    have hmissing : id ∉ committed.diff current := List.eq_nil_iff_forall_not_mem.mp hempty.1 id
    have hextra : id ∉ current.diff committed := List.eq_nil_iff_forall_not_mem.mp hempty.2 id
    rw [NameSet.mem_diff, not_and, not_not] at hmissing hextra
    exact ⟨hmissing, hextra⟩
  restores id := by
    simp only [NameSet.mem_diff]
    tauto

theorem hasEnumeration_render (h : current.isEmpty = false) :
    HasEnumeration (render c current) current.toList := exists_toList_render_eq h

/-! ### The gate -/

/-- The gate of a document. It is open just if no record is malformed and there are no committed
ids, no ids of the document, or the same on both sides; the file is then that of the content, and
enumerates the committed ids if any were compared. Otherwise the first malformed record is
reported, whatever the committed ids are, and without one the difference of the two sets. -/
theorem generate_gate (document : Tree) (oracle : Option NameSet) :
    let c := Content.ofDocument document
    let ids := c.techniqueIds
    ((∃ text, generate c oracle = .ok text) ↔
      c.malformed = [] ∧ (oracle = none ∨ ids.isEmpty = true ∨ oracle = some ids)) ∧
    (∀ text, generate c oracle = .ok text → text = render c ids ∧
      ∀ committed, oracle = some committed → ids.isEmpty = false →
        HasEnumeration text committed.toList ∧ committed.toList.Pairwise (· < ·) ∧
          (committed.toList.map identifier).Nodup) ∧
    (c.malformed ≠ [] → ∃ m, IsFirstMalformed document m ∧
      ∀ oracle, generate c oracle = .error (.malformed m)) ∧
    ∀ refusal, c.malformed = [] → generate c oracle = .error refusal →
      ∃ committed drift, oracle = some committed ∧ refusal = .drift drift ∧
        IsDifference drift ids committed ∧
        Drift.check ids (some committed) = .error drift ∧
        (committed.isEmpty = false →
          Drift.check committed (some ids) = .error ⟨drift.extra, drift.missing⟩) := by
  intro c ids
  refine ⟨?_, fun text htext => ?_, fun hm => ?_, fun refusal hm hrefusal => ?_⟩
  · simp only [generate_eq_ok_iff, exists_and_left, exists_eq, and_true, c, ids]
  · obtain ⟨hm, hagree, rfl⟩ := generate_eq_ok_iff.mp htext
    refine ⟨rfl, fun committed hcommitted hids => ?_⟩
    have heq : committed = ids := by
      rw [hcommitted] at hagree
      rcases hagree with hnone | hempty | hsome
      · exact absurd hnone (Option.some_ne_none _)
      · exact absurd (hids.symm.trans hempty) Bool.false_ne_true
      · exact Option.some.inj hsome
    have hnodup : committed.toList.Nodup := committed.ascending.imp fun hlt => ne_of_lt hlt
    exact ⟨heq ▸ hasEnumeration_render hids, committed.ascending,
      hnodup.map identifier_injective⟩
  · obtain ⟨m, ms, hms⟩ := List.exists_cons_of_ne_nil hm
    exact ⟨m, isFirstMalformed_of_malformed_eq_cons hms, generate_of_malformed hms⟩
  · rw [generate_of_malformed_eq_nil hm] at hrefusal
    cases oracle with
    | none => exact absurd hrefusal (by simp)
    | some committed =>
      by_cases hagree : ids.isEmpty = true ∨ committed = ids
      · exact absurd ((if_pos hagree).symm.trans hrefusal) (by simp)
      · have hdrift := Except.error.inj ((if_neg hagree).symm.trans hrefusal)
        rw [not_or, Bool.not_eq_true] at hagree
        refine ⟨committed, ⟨committed.diff ids, ids.diff committed⟩, rfl, hdrift.symm,
          isDifference_diff hagree.2, ?_, fun hcommitted => ?_⟩
        · rw [Drift.check_some hagree.1, if_neg hagree.2]
        · rw [Drift.check_some hcommitted, if_neg (Ne.symm hagree.2)]

end CombatContent.Zig
