import CombatContent.Tree

/-!
# Tables of TOML

A document is gathered table by table. Its rules are about where a table comes from: a table is
named by one header at most; a header that leads through a table which is not there implies it, and
so does a dotted key. A header may come after it has been implied, and then its table moves to the
end. A dotted key may not reach into a table that a header names, nor may a header name a table that
a dotted key made.

## Main definitions

* `Node`, `Table`: what is gathered.
* `Table.change`: changes the table that a path leads to.
* `Table.openTable`, `Table.openElement`, `Table.putAt`: what headers and members do.
* `Node.tree`: the value gathered.
-/

namespace CombatContent.Toml

/-- Where a table comes from. -/
inductive Origin where
  | named
  | implied
  | dotted
  deriving DecidableEq, Repr

/-- What stands at a key: a value, a table, or a list of tables, of which there is a last one. -/
inductive Node where
  | value (tree : Tree)
  | table (origin : Origin) (members : List (String × Node))
  | tables (earlier : List (List (String × Node))) (last : List (String × Node))

/-- The members of a table, in the order of the document. -/
abbrev Table := List (String × Node)

namespace Table

/-- Gives a key its node: in its place if the key is there, and else at the end. -/
def replace (ms : Table) (key : String) (node : Node) : Table :=
  if (ms.lookup key).isSome then ms.map fun m => if m.1 == key then (key, node) else m
  else ms ++ [(key, node)]

/-- Changes the table that a path leads to, `new` being where tables come from that are not there.
A path leads through the last of a list of tables, and not through a value; that of a dotted key
does not lead through a named table. -/
def change (new : Origin) (f : Origin → Table → Option Table) :
    Origin → Table → List String → Option Table
  | origin, ms, [] => f origin ms
  | _, ms, key :: path =>
    match ms.lookup key with
    | none => do
      let inner ← change new f new [] path
      some (ms.replace key (.table new inner))
    | some (.value _) => none
    | some (.table origin inner) =>
      if new = .dotted ∧ origin = .named then none
      else do
        let inner ← change new f origin inner path
        some (ms.replace key (.table origin inner))
    | some (.tables earlier last) => do
      let last ← change new f .named last path
      some (ms.replace key (.tables earlier last))

/-- Opens a table by its header. One that was only implied so far moves to the end. -/
def openHere (key : String) (ms : Table) : Option Table :=
  match ms.lookup key with
  | none => some (ms ++ [(key, .table .named [])])
  | some (.table .implied inner) =>
    some ((ms.filter fun m => m.1 != key) ++ [(key, .table .named inner)])
  | some _ => none

/-- Opens the next table of a list by its header. -/
def openElementHere (key : String) (ms : Table) : Option Table :=
  match ms.lookup key with
  | none => some (ms.replace key (.tables [] []))
  | some (.tables earlier last) => some (ms.replace key (.tables (earlier ++ [last]) []))
  | some _ => none

/-- Opens a table by its header, `front` being the way to it. -/
def openTable (root : Table) (front : List String) (key : String) : Option Table :=
  root.change .implied (fun _ => openHere key) .named front

/-- Opens the next table of a list by its header, `front` being the way to the list. -/
def openElement (root : Table) (front : List String) (key : String) : Option Table :=
  root.change .implied (fun _ => openElementHere key) .named front

/-- Puts a new key; a dotted one ends in a table that a dotted key made, and no other does. -/
def putHere (isDotted : Bool) (key : String) (value : Tree) (origin : Origin) (ms : Table) :
    Option Table :=
  if (origin = .dotted) ≠ isDotted ∨ (ms.lookup key).isSome then none
  else some (ms ++ [(key, .value value)])

/-- Puts a member that may have a dotted key into a table. -/
def put (front : List String) (key : String) (value : Tree) (ms : Table) : Option Table :=
  ms.change .dotted (putHere (!front.isEmpty) key value) .named front

/-- Puts a member into the table that headers lead to. -/
def putAt (root : Table) (way : List String) (front : List String) (key : String)
    (value : Tree) : Option Table :=
  root.change .implied (fun _ => put front key value) .named way

end Table

mutual

/-- The value gathered. -/
def Node.tree : Node → Tree
  | .value t => t
  | .table _ ms => .map (memberTrees ms)
  | .tables earlier last => .list (tableTrees earlier ++ [.map (memberTrees last)])

/-- The members gathered. -/
def memberTrees : List (String × Node) → List (String × Tree)
  | [] => []
  | (key, node) :: ms => (key, node.tree) :: memberTrees ms

/-- The tables gathered. -/
def tableTrees : List (List (String × Node)) → List Tree
  | [] => []
  | ms :: rest => .map (memberTrees ms) :: tableTrees rest

end

end CombatContent.Toml
