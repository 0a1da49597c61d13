import CombatContent.FileAccess
import CombatContent.Json.Value
import CombatContent.Ron.Value
import CombatContent.Toml.Document

/-!
# Documents

A document is a text of one of three formats whose root is a map. Only faults of JSON say what is
wrong and where; for the other formats it is enough that there is a fault.

## Main definitions

* `DocumentFormat`: the formats, which the extension of a file tells apart.
* `LoadFault`: why a document could not be had.
* `Document.ofText`: reads a document.
-/

namespace CombatContent

/-- The formats of documents. -/
inductive DocumentFormat where
  | json
  | ron
  | toml
  deriving DecidableEq, Repr

namespace DocumentFormat

/-- The extension of a file in the format. -/
def extension : DocumentFormat → String
  | .json => "json"
  | .ron => "ron"
  | .toml => "toml"

/-- The format of that extension. -/
def ofExtension? : String → Option DocumentFormat
  | "json" => some .json
  | "ron" => some .ron
  | "toml" => some .toml
  | _ => none

end DocumentFormat

/-- Why a document or settings could not be had. -/
inductive LoadFault where
  | unsupportedFormat (path : String)
  | conflictingFormats (first second : String)
  | badJson (origin : String) (detail : String)
  | badText (origin : String)
  | notMap (origin : String)
  | file (fault : FileFault)
  deriving DecidableEq, Repr

/-- The wording of a fault; formats other than JSON and files have none of their own. -/
def LoadFault.message? : LoadFault → Option String
  | .unsupportedFormat path => some ("unsupported format for file: " ++ path)
  | .conflictingFormats first second =>
    some ("conflicting formats: " ++ first ++ " and " ++ second)
  | .badJson origin detail => some ("parse error in " ++ origin ++ ": " ++ detail)
  | .badText _ => none
  | .notMap origin => some ("document root in " ++ origin ++ " is not a mapping")
  | .file _ => none

namespace Document

/-- An answer of a reader of JSON, with a fault worded. -/
def jsonAnswer {α : Type} (origin : String) (text : List Char) :
    Except Json.Fault α → Except LoadFault α
  | .ok a => .ok a
  | .error fault => .error (.badJson origin (fault.message text))

/-- An answer of a reader that gives no reasons. -/
def plainAnswer {α : Type} (origin : String) : Option α → Except LoadFault α
  | some a => .ok a
  | none => .error (.badText origin)

/-- The value that a text holds. -/
def tree (format : DocumentFormat) (origin text : String) : Except LoadFault Tree :=
  match format with
  | .json => jsonAnswer origin text.toList (Json.ofText text.toList)
  | .ron => plainAnswer origin (Ron.ofText text.toList)
  | .toml => plainAnswer origin (Toml.ofText text.toList)

/-- Reads a document; `origin` says in faults where the text is from. -/
def ofText (format : DocumentFormat) (origin text : String) : Except LoadFault Tree := do
  let t ← tree format origin text
  if t.isMap then .ok t else .error (.notMap origin)

end Document

end CombatContent
