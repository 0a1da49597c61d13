/-!
# The order of a body plan's parts

A part names its parent, which may be missing from the plan, and parents may form a cycle. Parts
are placed in rounds. In each round the parts without an unplaced parent come next, in order of
their names. When every part that is left has an unplaced parent, all of them come, by name.

## Main definitions

* `PartOrder.lastByName`: one part per name, the last that was declared, in order of names.
* `PartOrder.rounds`: the rounds.
* `PartOrder.order`: the parts of a plan in order.
-/

namespace CombatContent.PartOrder

variable {α : Type}

/-- Puts a part in its place among parts in order of names; it replaces a part of its name. -/
def putPart (name : String) (part : α) : List (String × α) → List (String × α)
  | [] => [(name, part)]
  | p :: ps =>
    if name = p.1 then (name, part) :: ps
    else if name < p.1 then (name, part) :: p :: ps
    else p :: putPart name part ps

/-- One part per name, the last that was declared, in order of names. -/
def lastByName (parts : List (String × α)) : List (String × α) :=
  parts.foldl (fun placed p => putPart p.1 p.2 placed) []

/-- Whether a part is without a parent among the unplaced parts. -/
def isReady (parent : α → Option String) (unplaced : List (String × α)) (part : String × α) :
    Bool :=
  match parent part.2 with
  | none => true
  | some name => !unplaced.any fun p => p.1 == name

/-- The parts that come next. -/
def ready (parent : α → Option String) (unplaced : List (String × α)) : List (String × α) :=
  unplaced.filter (isReady parent unplaced)

/-- The parts that wait for a parent. -/
def waiting (parent : α → Option String) (unplaced : List (String × α)) : List (String × α) :=
  unplaced.filter fun p => !isReady parent unplaced p

/-- Fewer parts wait once some are ready. -/
theorem length_waiting_lt {parent : α → Option String} {unplaced : List (String × α)}
    (h : ready parent unplaced ≠ []) :
    (waiting parent unplaced).length < unplaced.length := by
  obtain ⟨p, hp⟩ := List.exists_mem_of_ne_nil _ h
  obtain ⟨hmem, hready⟩ := List.mem_filter.mp hp
  exact List.length_filter_lt_length_iff_exists.mpr ⟨p, hmem, by simp [hready]⟩

/-- The unplaced parts in rounds; parts that keep each other waiting come last. -/
def rounds (parent : α → Option String) (unplaced : List (String × α)) : List (String × α) :=
  if _h : ready parent unplaced = [] then unplaced
  else ready parent unplaced ++ rounds parent (waiting parent unplaced)
termination_by unplaced.length
decreasing_by exact length_waiting_lt _h

/-- The parts of a plan, parents before their children where parents do not form a cycle. -/
def order (parent : α → Option String) (parts : List (String × α)) : List (String × α) :=
  rounds parent (lastByName parts)

end CombatContent.PartOrder
