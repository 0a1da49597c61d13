import CombatContent.Audit.Markdown
import CombatContent.Audit.Run
import CombatContent.CommandLine.Invocation
import CombatContent.Loading
import CombatContent.Zig.Generated

/-!
# Runs of the program

A run loads one document, from a file or as JSON from the standard input, and then audits it or
generates tables from it. An audit is written whatever its verdict is, and the exit tells it.
Tables are written only if nothing has failed; the settings and the committed ids are loaded for
them alone.

## Main definitions

* `Exit`, `Outcome`: how a run ends.
* `run`: the run that a command line asks for.
-/

namespace CombatContent.CommandLine

/-- How a run ends. -/
inductive Exit where
  | success
  | failure
  | usage
  deriving DecidableEq, Repr

/-- The code of an exit. -/
def Exit.code : Exit → Nat
  | .success => 0
  | .failure => 1
  | .usage => 2

/-- How a run ended, what it wrote to the standard output, and what it has to complain of. -/
structure Outcome where
  exit : Exit
  output : String := ""
  complaint : Option String := none
  deriving DecidableEq, Repr

/-- What help says. -/
def helpText : String := Text.unlines [
  "Combat content compiler and auditor",
  "",
  "Usage: armoury [OPTIONS] [INPUT]",
  "",
  "Arguments:",
  "  [INPUT]  Input document (.json, .ron or .toml). Reads JSON from stdin when omitted",
  "",
  "Options:",
  "      --audit-report <PATH>  Write the audit report as markdown to PATH and skip generation",
  "      --audit-only           Print the audit report to stdout and skip generation",
  "      --config <PATH>        Configuration file. Defaults to " ++
    "`armoury.\x7bron,toml,json\x7d` in the working directory",
  "      --oracle <PATH>        Committed technique enumeration to check ids against",
  "  -h, --help                 Print help"]

/-- What is said of a fault in loading. -/
def loadComplaint : LoadFault → String
  | .badText origin => "parse error in " ++ origin
  | .file .notFound => "file not found"
  | .file .isFolder => "is a directory"
  | .file .notFolder => "not a directory"
  | .file .notText => "file is not valid UTF-8"
  | .file .unreadable => "file cannot be read"
  | fault => fault.message?.getD ""

/-- The outcome of a run that a fault in loading ends. -/
def Outcome.notLoaded (fault : LoadFault) : Outcome where
  exit := .failure
  complaint := some (loadComplaint fault)

/-- The label of the standard input in faults. -/
def standardInputName : String := "<stdin>"

variable {m : Type → Type} [Monad m]

/-- Loads the document: the named one, or JSON from the standard input. -/
def loadInput (files : FileAccess m) (standardInput : m ByteArray) :
    Option String → m (Except LoadFault Tree)
  | some path => files.loadDocument path
  | none => do
    match decodeText (← standardInput) with
    | .error fault => return .error (.file fault)
    | .ok text => return Document.ofText .json standardInputName text

/-- The exit that a report asks for. -/
def exitOf (report : Audit.Report) : Exit :=
  if report.hasErrors then .failure else .success

/-- Audits content, and writes the report to a file or to the standard output. -/
def audit (files : FileAccess m) (reportPath : Option String) (c : Content) : m Outcome := do
  let report := Audit.run c
  let text := Audit.markdown report ++ "\n"
  match reportPath with
  | none => return ⟨exitOf report, text, none⟩
  | some path =>
    if ← files.write path text then return ⟨exitOf report, "", none⟩
    else return ⟨.failure, "", some ("failed to write " ++ path)⟩

/-- Loads the settings that a request names, or those that are found. -/
def loadSettings (files : FileAccess m) (r : Request) : m (Except LoadFault Settings) :=
  match r.settingsPath with
  | some path => files.loadSettings path
  | none => files.discoverSettings

/-- Where the enumeration of a request is: the settings say it, unless the request does. -/
def sourceOf (r : Request) (s : Settings) : EnumerationSource :=
  match r.committedPath with
  | some path => { s.enumeration with path := path }
  | none => s.enumeration

/-- The outcome of a generation. -/
def Outcome.ofGenerated : Except Zig.Refusal String → Outcome
  | .ok text => ⟨.success, text, none⟩
  | .error refusal => ⟨.failure, "", some refusal.message⟩

/-- Generates tables from content. -/
def generate (files : FileAccess m) (r : Request) (c : Content) : m Outcome := do
  match ← loadSettings files r with
  | .error fault => return .notLoaded fault
  | .ok s =>
    match ← files.loadCommitted (sourceOf r s) with
    | .error fault => return .notLoaded fault
    | .ok committed => return .ofGenerated (Zig.generate c committed)

/-- Does what a request asks for. -/
def perform (files : FileAccess m) (standardInput : m ByteArray) (r : Request) : m Outcome := do
  match ← loadInput files standardInput r.input with
  | .error fault => return .notLoaded fault
  | .ok document =>
    let c := Content.ofDocument document
    if r.isAudit then audit files r.reportPath c else generate files r c

/-- The run that a command line asks for. -/
def run (files : FileAccess m) (standardInput : m ByteArray) (words : List String) :
    m Outcome :=
  match Invocation.ofWords words with
  | .error fault => return ⟨.usage, "", some fault.message⟩
  | .ok .help => return ⟨.success, helpText, none⟩
  | .ok (.run r) => perform files standardInput r

end CombatContent.CommandLine
