/-!
# Document trees

A document of any format is read into one tree of values. The members of a map keep their order,
and a map that is read from a document has one member per key.

## Main definitions

* `Tree`: the values.
* `Tree.same`: whether two values are the same, which is decided by their structure.
* `Tree.find?`: the member of a map.
* `Members.put`: adds a member, or replaces the value of a member that is there already.
* `Tree.dropNulls`: the tree without the null members of its maps.

## Main statements

* `Tree.same_iff`: values that are the same are equal.
* `Members.keys_put`: a put key that was there keeps its place, and a new one comes last.
-/

namespace CombatContent

/-- A value of a document. -/
inductive Tree where
  | null
  | boolean (value : Bool)
  | integer (value : Int)
  | float (value : Float)
  | text (value : String)
  | list (items : List Tree)
  | map (members : List (String × Tree))
  deriving Inhabited

/-- The members of a map, in document order. -/
abbrev Members := List (String × Tree)

namespace Members

/-- The keys in order. -/
def keys (ms : Members) : List String := ms.map (·.1)

/-- The value of a member. -/
def find? (ms : Members) (key : String) : Option Tree :=
  (List.find? (fun m => m.1 == key) ms).map (·.2)

/-- Whether there is a member of that key. -/
def has (ms : Members) (key : String) : Bool :=
  ms.any fun m => m.1 == key

/-- Gives a member its value: in its place if the key is there, and else at the end. -/
def put (ms : Members) (key : String) (value : Tree) : Members :=
  match ms with
  | [] => [(key, value)]
  | m :: ms => if m.1 = key then (key, value) :: ms else m :: put ms key value

/-- A put key that was there keeps its place, and a new one comes last. -/
theorem keys_put (ms : Members) (key : String) (value : Tree) :
    (ms.put key value).keys = if key ∈ ms.keys then ms.keys else ms.keys ++ [key] := by
  induction ms with
  | nil => simp [put, keys]
  | cons m ms ih =>
    simp only [keys] at ih
    by_cases h : m.1 = key
    · simp [put, keys, h]
    · simp only [put, keys, if_neg h, List.map_cons, ih, List.mem_cons, Ne.symm h, false_or]
      split <;> simp [*]

end Members

namespace Tree

/-! ### Equality -/

mutual

/-- Whether two trees are the same. -/
def same : Tree → Tree → Bool
  | .null, .null => true
  | .boolean a, .boolean b => a = b
  | .integer m, .integer n => m = n
  | .float x, .float y => x = y
  | .text s, .text t => s = t
  | .list ts, .list us => sameItems ts us
  | .map ms, .map ns => sameMembers ms ns
  | _, _ => false

/-- Whether two lists have the same items. -/
def sameItems : List Tree → List Tree → Bool
  | [], [] => true
  | t :: ts, u :: us => t.same u && sameItems ts us
  | _, _ => false

/-- Whether two maps have the same members in the same order. -/
def sameMembers : List (String × Tree) → List (String × Tree) → Bool
  | [], [] => true
  | (k, t) :: ms, (l, u) :: ns => k = l && t.same u && sameMembers ms ns
  | _, _ => false

end

mutual

theorem same_iff : ∀ t u : Tree, t.same u = true ↔ t = u
  | .null, u => by cases u <;> simp [same]
  | .boolean _, u => by cases u <;> simp [same]
  | .integer _, u => by cases u <;> simp [same]
  | .float _, u => by cases u <;> simp [same]
  | .text _, u => by cases u <;> simp [same]
  | .list ts, u => by cases u <;> simp [same, sameItems_iff ts]
  | .map ms, u => by cases u <;> simp [same, sameMembers_iff ms]

theorem sameItems_iff : ∀ ts us : List Tree, sameItems ts us = true ↔ ts = us
  | [], us => by cases us <;> simp [sameItems]
  | t :: ts, us => by cases us <;> simp [sameItems, same_iff t, sameItems_iff ts]

theorem sameMembers_iff : ∀ ms ns : List (String × Tree), sameMembers ms ns = true ↔ ms = ns
  | [], ns => by cases ns <;> simp [sameMembers]
  | (_, t) :: ms, ns => by
    cases ns <;> simp [sameMembers, same_iff t, sameMembers_iff ms, Prod.ext_iff]

end

instance : DecidableEq Tree := fun t u => decidable_of_iff _ (same_iff t u)

/-! ### Members -/

/-- The members of a map. -/
def members? : Tree → Option Members
  | .map ms => some ms
  | _ => none

/-- The member of a map; other values have none. -/
def find? (t : Tree) (key : String) : Option Tree :=
  t.members?.bind (·.find? key)

/-- The text of a text value. -/
def text? : Tree → Option String
  | .text s => some s
  | _ => none

/-- Whether the value is null. -/
def isNull : Tree → Bool
  | .null => true
  | _ => false

/-- Whether the value is a map. -/
def isMap : Tree → Bool
  | .map _ => true
  | _ => false

mutual

/-- Removes the null members of every map, at any depth. Null elements of lists stay. -/
def dropNulls : Tree → Tree
  | .list items => .list (dropNullsItems items)
  | .map ms => .map (dropNullMembers ms)
  | t => t

/-- The elements of a list, each without the null members of its maps. -/
def dropNullsItems : List Tree → List Tree
  | [] => []
  | t :: ts => t.dropNulls :: dropNullsItems ts

/-- The members that are not null, each without the null members of its maps. -/
def dropNullMembers : List (String × Tree) → List (String × Tree)
  | [] => []
  | (key, t) :: ms =>
    if t.isNull then dropNullMembers ms else (key, t.dropNulls) :: dropNullMembers ms

end

theorem dropNullsItems_eq_map (ts : List Tree) : dropNullsItems ts = ts.map dropNulls := by
  induction ts with
  | nil => rfl
  | cons t ts ih => rw [dropNullsItems, ih, List.map_cons]

theorem dropNullMembers_eq_filterMap (ms : Members) :
    dropNullMembers ms =
      ms.filterMap fun m => if m.2.isNull then none else some (m.1, m.2.dropNulls) := by
  induction ms with
  | nil => rfl
  | cons m ms ih =>
    rw [dropNullMembers, ih, List.filterMap_cons]
    cases h : m.2.isNull <;> simp

mutual

/-- Whether every map in the tree has one member per key. -/
def HasDistinctKeys : Tree → Prop
  | .list items => ItemsHaveDistinctKeys items
  | .map ms => (Members.keys ms).Nodup ∧ MembersHaveDistinctKeys ms
  | _ => True

/-- Whether every map in the elements has one member per key. -/
def ItemsHaveDistinctKeys : List Tree → Prop
  | [] => True
  | t :: ts => t.HasDistinctKeys ∧ ItemsHaveDistinctKeys ts

/-- Whether every map in the members' values has one member per key. -/
def MembersHaveDistinctKeys : List (String × Tree) → Prop
  | [] => True
  | (_, t) :: ms => t.HasDistinctKeys ∧ MembersHaveDistinctKeys ms

end

end Tree

end CombatContent
