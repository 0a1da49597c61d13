import CombatContent.NameSet

/-!
# Drift of identifiers

The ids of a document are compared with those that are committed. Nothing is compared when no
committed ids are at hand, or when the document has none. Otherwise an id on one side only is drift.

## Main statements

* `Drift.check_some`: ids agree with committed ones just if these are the same.
-/

namespace CombatContent

/-- The ids that one side has and the other lacks. -/
structure Drift where
  /-- The committed ids that the document lacks. -/
  missing : NameSet
  /-- The ids of the document that are not committed. -/
  extra : NameSet

/-- How a comparison without drift ended. -/
inductive Agreement where
  | nothingCommitted
  | noIdentifiers
  | consistent (count : Nat)
  deriving DecidableEq, Repr

namespace Drift

/-- What drift is reported as. -/
def message (d : Drift) : String :=
  "technique identifier drift: missing [" ++ ", ".intercalate d.missing.toList ++
    "], unexpected [" ++ ", ".intercalate d.extra.toList ++ "]"

/-- Compares the ids of a document with the committed ones. -/
def check (current : NameSet) : Option NameSet → Except Drift Agreement
  | none => .ok .nothingCommitted
  | some committed =>
    if current.isEmpty then .ok .noIdentifiers
    else
      let drift : Drift := ⟨committed.diff current, current.diff committed⟩
      if drift.missing.isEmpty && drift.extra.isEmpty then .ok (.consistent current.size)
      else .error drift

/-- Ids agree with committed ones just if these are the same. -/
theorem check_some {current committed : NameSet} (h : current.isEmpty = false) :
    check current (some committed) =
      if committed = current then .ok (.consistent current.size)
      else .error ⟨committed.diff current, current.diff committed⟩ := by
  have hdiff : ((committed.diff current).isEmpty && (current.diff committed).isEmpty) = true ↔
      committed = current := by
    rw [Bool.and_eq_true, NameSet.isEmpty_iff, NameSet.isEmpty_iff, NameSet.ext_iff]
    simp only [NameSet.mem_diff, not_and, Classical.not_not]
    exact forall_and.symm.trans (forall_congr' fun _ => iff_def.symm)
  rw [check, h, if_neg Bool.false_ne_true]
  by_cases heq : committed = current
  · rw [if_pos heq]
    exact if_pos (hdiff.mpr heq)
  · rw [if_neg heq]
    exact if_neg (mt hdiff.mp heq)

end Drift

end CombatContent
