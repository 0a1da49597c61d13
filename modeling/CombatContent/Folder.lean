import CombatContent.FileAccess

/-!
# Folders in memory

A folder holds files and folders by name. A path is followed step by step from the outermost folder:
an empty step and `.` stay, `..` leads out again, and no step leads on from a file. What lies
outside the outermost folder is not there.

## Main definitions

* `FolderEntry`, `Folder`: what is held.
* `Folder.find`: follows a path.
* `Folder.put`: puts a file or folder, with the folders on its way.
* `Folder.access`: the operations on files, for a folder kept as a state.
-/

namespace CombatContent

/-- What stands under a name: the bytes of a file, or a folder. -/
inductive FolderEntry where
  | file (bytes : ByteArray)
  | folder (entries : List (String × FolderEntry))

/-- The entries of a folder. -/
abbrev Folder := List (String × FolderEntry)

namespace Folder

/-- Gives a name its entry: in its place if the name is there, and else at the end. -/
def replace (folder : Folder) (name : String) (entry : FolderEntry) : Folder :=
  if (folder.lookup name).isSome then
    folder.map fun e => if e.1 == name then (name, entry) else e
  else folder ++ [(name, entry)]

/-- Follows steps from an entry; `outer` are the folders around it, the innermost first. -/
def follow (outer : List FolderEntry) (here : FolderEntry) :
    List String → Except FileFault FolderEntry
  | [] => .ok here
  | step :: steps =>
    match here with
    | .file _ => .error .notFolder
    | .folder entries =>
      if step = "" ∨ step = "." then follow outer here steps
      else if step = ".." then
        match outer with
        | [] => .error .notFound
        | around :: outer => follow outer around steps
      else
        match entries.lookup step with
        | none => .error .notFound
        | some entry => follow (here :: outer) entry steps

/-- Whether a path starts outside of every folder. -/
def isAbsolute (path : String) : Bool := path.toList.head? = some '/'

/-- The entry that a path leads to. -/
def find (folder : Folder) (path : String) : Except FileFault FolderEntry :=
  if path.isEmpty ∨ isAbsolute path then .error .notFound
  else follow [] (.folder folder) (Path.steps path)

/-- The text of the file that a path leads to. -/
def read (folder : Folder) (path : String) : Except FileFault String :=
  match folder.find path with
  | .error fault => .error fault
  | .ok (.folder _) => .error .isFolder
  | .ok (.file bytes) => decodeText bytes

/-- Puts an entry at the end of a way of names, with the folders on the way. -/
def putAt (folder : Folder) (entry : FolderEntry) : List String → Folder
  | [] => folder
  | [name] => folder.replace name entry
  | name :: names =>
    let inner := match folder.lookup name with
      | some (.folder entries) => entries
      | _ => []
    folder.replace name (.folder (putAt inner entry names))

/-- Puts an entry, with the folders on its way. -/
def put (folder : Folder) (path : String) (entry : FolderEntry) : Folder :=
  folder.putAt entry ((Path.steps path).filter fun step => step != "" && step != ".")

/-- The names that lead to a place, once the steps that stay or lead out again are done. -/
def settle (names : List String) : List String → List String
  | [] => names.reverse
  | step :: steps =>
    if step = "" ∨ step = "." then settle names steps
    else if step = ".." then settle names.tail steps
    else settle (step :: names) steps

/-- Writes a file, if its folder is there and no folder has its name. -/
def write (folder : Folder) (path text : String) : Option Folder :=
  let steps := Path.steps path
  match folder.find path, follow [] (.folder folder) steps.dropLast with
  | .ok (.folder _), _ => none
  | .error .notFolder, _ => none
  | _, .ok (.folder _) =>
    if path.isEmpty ∨ isAbsolute path ∨ steps.getLast? = some "" ∨ steps.getLast? = some ".." then
      none
    else some (folder.putAt (.file text.toUTF8) (settle [] steps))
  | _, _ => none

/-- The operations on files, for a folder kept as a state. -/
def access : FileAccess (StateM Folder) where
  read path := return (← get).read path
  isThere path := return ((← get).find path).toBool
  write path text := do
    match (← get).write path text with
    | some folder =>
      set folder
      return true
    | none => return false

end Folder

end CombatContent
