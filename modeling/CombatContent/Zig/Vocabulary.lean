import CombatContent.Content.Anatomy
import CombatContent.Content.Technique
import CombatContent.Zig.Literal

/-!
# The vocabulary of the tables

How words of the content become names that the host program declares. Sides, layers and totalities
are closed lists with a default. Heights, part tags, kinds of damage and stats are open: their words
are taken as they are.
-/

namespace CombatContent.Zig

/-- A height of the body, or null if the word is empty or absent. -/
def height : Option String → Literal
  | some h => if h.isEmpty then .null else .member "body.Height" h
  | none => .null

/-- A tag of a body part. -/
def partTag (tag : String) : Literal := .member "body.PartTag" tag

/-- A side of the body; an unknown one is the centre. -/
def side (word : String) : Literal :=
  .member "body.Side" (if ["left", "right", "none"].contains word then word else "center")

/-- How much of a part armour covers; an unknown totality is frontal. -/
def totality (word : String) : Literal :=
  let known := ["total", "intimidating", "comprehensive", "frontal", "minimal"]
  .member "armour.Totality" (if known.contains word then word else "frontal")

/-- The slot of the inventory that a layer of armour takes. -/
def armourLayer (word : String) : Literal :=
  .member "inventory.Layer" <|
    if word = "padding" then "Gambeson" else if word = "cloak" then "Cloak" else "Plate"

/-- The kinds of damage of a packet. -/
def damageTypes (words : List String) : Literal := .slice (words.map (Literal.member "damage.Kind"))

/-- The flags of a part by the names of their fields. -/
def namedFlags (f : PartFlags) : List (String × Bool) :=
  [("is_vital", f.vital), ("is_internal", f.isInternal), ("can_grasp", f.grasp),
    ("can_stand", f.stand), ("can_see", f.see), ("can_hear", f.hear)]

/-- The flags of a part that are set. -/
def partFlags (f : PartFlags) : Literal :=
  .record (((namedFlags f).filter (·.2)).map fun flag => (flag.1, .boolean true))

/-- A stat. -/
def stat (word : String) : Literal := .member "stats.Accessor" word

/-- The stats of a scaling: the one that is given, or else the average of two, or else power. -/
def scalingStats (s : ScalingStats) : Literal :=
  match s.stat, s.average with
  | some word, _ => .record [("stat", stat word)]
  | none, [a, b] => .record [("average", .tuple [stat a, stat b])]
  | none, _ => .record [("stat", stat "power")]

/-- How damage scales. -/
def scaling (s : Scaling) : Literal :=
  .record [("ratio", .number s.ratio), ("stats", scalingStats s.stats)]

end CombatContent.Zig
