import CombatContent.FileAccess
import CombatContent.Settings

/-!
# Loading from files

Documents and settings come from files whose extension tells their format. Settings are looked for
under one name in every format, and two such files are in conflict. The committed enumeration is
not at hand when its file is not there or declares no id.

## Main definitions

* `formatOf`: the format of a file.
* `findDataFile`: looks for a file of any format.
* `loadDocument`, `loadSettings`, `discoverSettings`, `loadCommitted`: what is loaded.
-/

namespace CombatContent

/-- The format that the extension of a file tells. -/
def formatOf (path : String) : Except LoadFault DocumentFormat :=
  match (Path.extension? path).bind DocumentFormat.ofExtension? with
  | some format => .ok format
  | none => .error (.unsupportedFormat path)

/-- The formats in the order in which files are looked for. -/
def searchOrder : List DocumentFormat := [.ron, .toml, .json]

/-- The name under which settings are looked for. -/
def settingsName : String := "armoury"

namespace FileAccess

variable {m : Type → Type} [Monad m] (files : FileAccess m)

/-- Reads a file of a known format with a reader of texts. -/
def load {α : Type} (reader : DocumentFormat → String → String → Except LoadFault α)
    (path : String) : m (Except LoadFault α) := do
  match formatOf path with
  | .error fault => return .error fault
  | .ok format =>
    match ← files.read path with
    | .error fault => return .error (.file fault)
    | .ok text => return reader format path text

/-- Loads a document. -/
def loadDocument (path : String) : m (Except LoadFault Tree) :=
  files.load Document.ofText path

/-- Loads settings. -/
def loadSettings (path : String) : m (Except LoadFault Settings) :=
  files.load Settings.ofText path

/-- The paths that are there. -/
def existing : List String → m (List String)
  | [] => return []
  | path :: paths => do
    let isThere ← files.isThere path
    let rest ← existing paths
    return if isThere then path :: rest else rest

/-- Looks for a file of that name, its extension aside, in every format. -/
def findDataFile (base : String) : m (Except LoadFault (Option String)) := do
  match ← files.existing (searchOrder.map fun format => base ++ "." ++ format.extension) with
  | [] => return .ok none
  | [path] => return .ok (some path)
  | first :: second :: _ => return .error (.conflictingFormats first second)

/-- Loads the settings that are found, and else takes those that nothing was given for. -/
def discoverSettings : m (Except LoadFault Settings) := do
  match ← files.findDataFile settingsName with
  | .error fault => return .error fault
  | .ok none => return .ok {}
  | .ok (some path) => files.loadSettings path

/-- The committed ids, if they are at hand. -/
def loadCommitted (source : EnumerationSource) : m (Except LoadFault (Option NameSet)) := do
  match ← files.read source.path with
  | .error .notFound => return .ok none
  | .error fault => return .error (.file fault)
  | .ok text =>
    let ids := Enumeration.read source.format text
    return .ok (if ids.isEmpty then none else some ids)

end FileAccess

end CombatContent
