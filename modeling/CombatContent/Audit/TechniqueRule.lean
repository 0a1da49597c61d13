import CombatContent.Audit.Entry
import CombatContent.Content

/-!
# The audit of techniques

A bias without any multiplier counts as no bias. A missing bias, a missing multiplier, and an
attack that occupies no channel are worth a warning. Nothing is an error.
-/

namespace CombatContent.Audit

/-- The bias of a technique, if it gives a multiplier. -/
def givenBias? (t : Technique) : Option AxisBias :=
  t.axisBias.filter fun b => !b.isEmpty

/-- A multiplier of a technique's bias; one if it is not given. -/
def biasMult (t : Technique) (pick : AxisBias → Option Float) : Float :=
  ((givenBias? t).bind pick).getD 1.0

/-- The multipliers of a bias by name. -/
def namedMults (b : AxisBias) : List (String × Option Float) :=
  [("geometry_mult", b.geometry), ("energy_mult", b.energy), ("rigidity_mult", b.rigidity)]

/-- The warnings about a technique's bias. -/
def biasWarnings (t : Technique) : List String :=
  match givenBias? t with
  | none => ["axis_bias not defined (using defaults)"]
  | some b =>
    ((namedMults b).filter fun m => m.2.isNone).map fun m =>
      "axis_bias." ++ m.1 ++ " not set (default 1.0)"

/-- The warning about a technique that attacks but occupies no channel. -/
def channelWarnings (t : Technique) : List String :=
  if t.isAttack && !t.channels.any then ["No channels defined for combat technique"] else []

/-- The fields of the entry of a technique. -/
def techniqueFields (t : Technique) : List (String × FieldValue) :=
  [("name", .text t.name), ("attack_mode", .text t.attackMode),
    ("axis_geometry_mult", .number (biasMult t AxisBias.geometry)),
    ("axis_energy_mult", .number (biasMult t AxisBias.energy)),
    ("axis_rigidity_mult", .number (biasMult t AxisBias.rigidity)),
    ("channels", .list t.channels.active)]

/-- The audit of a technique. -/
def techniqueEntry (r : Record Technique) : Entry :=
  Entry.blank .techniques r.id
    |>.withFields (techniqueFields r.data)
    |>.warnAll (biasWarnings r.data)
    |>.warnAll (channelWarnings r.data)

theorem techniqueEntry_eq (r : Record Technique) :
    techniqueEntry r =
      { dataset := .techniques, id := r.id, fields := techniqueFields r.data,
        warnings := biasWarnings r.data ++ channelWarnings r.data } := by
  rw [techniqueEntry, Entry.warnAll_eq, Entry.warnAll_eq, Entry.withFields_eq]
  rfl

@[simp]
theorem id_techniqueEntry (r : Record Technique) : (techniqueEntry r).id = r.id := by
  rw [techniqueEntry_eq]

end CombatContent.Audit
