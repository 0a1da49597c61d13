import CombatContent.Dataset
import CombatContent.Text.Order
import CombatContent.Tree

/-!
# Drafts: records before typing

Each dataset has its own shape in the document. All of them are flattened to drafts, an id with
the node that holds the record.

* Weapons nest by category. A map is a record as soon as it has a member `name`, and its id is the
  path of keys to it, joined by dots.
* Techniques and species are keyed by id, unless a record gives its own `id`.
* Armour materials are the members of `materials.armour` that have a `name`, sorted by key.
* Armour pieces and combat tests need an `id` of their own and are sorted by it.
* Tissue templates and body plans are keyed by id.

Nothing fails here; what a record lacks is for the audit to say.
-/

namespace CombatContent

/-- An id, and the node of a record that is not typed yet. -/
structure Draft where
  id : String
  node : Tree

namespace Draft

mutual

/-- The records at or below a node, with their paths: the node itself if it is a map with a
`name`, and else those below it. -/
def namedAt (path : List String) : Tree → List (List String × Tree)
  | .map ms => if Members.has ms "name" then [(path, .map ms)] else namedBelow path ms
  | _ => []

/-- The records at or below the values of some members, with their paths. -/
def namedBelow (path : List String) : List (String × Tree) → List (List String × Tree)
  | [] => []
  | (key, node) :: ms => namedAt (path ++ [key]) node ++ namedBelow path ms

end

/-- The id that a path of keys makes. -/
def pathId (path : List String) : String := ".".intercalate path

/-- The drafts of the members of a nest of categories. -/
def ofCategories (ms : Members) : List Draft :=
  (namedBelow [] ms).map fun (path, node) => ⟨pathId path, node⟩

/-- The drafts of members keyed by id, unless they give their own. Members that are no maps are
none. -/
def ofKeyed (ms : Members) : List Draft :=
  (ms.filter fun m => m.2.isMap).map fun (key, node) =>
    ⟨((node.find? "id").bind Tree.text?).getD key, node⟩

/-- The drafts of the members that have a `name`, sorted by key. -/
def ofNamed (ms : Members) : List Draft :=
  sortedBy Draft.id <|
    (ms.filter fun m => (m.2.find? "name").isSome).map fun (key, node) => ⟨key, node⟩

/-- The drafts of the members that give an id, sorted by it. -/
def ofIdentified (ms : Members) : List Draft :=
  sortedBy Draft.id <|
    ms.filterMap fun m => ((m.2.find? "id").bind Tree.text?).map fun id => ⟨id, m.2⟩

/-- The drafts of all members. -/
def ofMembers (ms : Members) : List Draft :=
  ms.map fun (key, node) => ⟨key, node⟩

/-- The members of a map that a document holds, or none. -/
def membersAt (document : Tree) (key : String) : Members :=
  ((document.find? key).bind Tree.members?).getD []

/-- The members of the map of armour materials, or none. -/
def armourMaterialMembers (document : Tree) : Members :=
  (((document.find? "materials").bind (·.find? "armour")).bind Tree.members?).getD []

/-- The drafts of one dataset of a document, in the order of the dataset. -/
def ofDocument (document : Tree) : Dataset → List Draft
  | .weapons => ofCategories (membersAt document "weapons")
  | .techniques => ofKeyed (membersAt document "techniques")
  | .armourMaterials => ofNamed (armourMaterialMembers document)
  | .armourPieces => ofIdentified (membersAt document "armour_pieces")
  | .tissueTemplates => ofMembers (membersAt document "tissue_templates")
  | .bodyPlans => ofMembers (membersAt document "body_plans")
  | .species => ofKeyed (membersAt document "species")
  | .combatTests => ofIdentified (membersAt document "combat_tests")

end Draft

end CombatContent
