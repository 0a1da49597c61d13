import CombatContent.Document
import CombatContent.Enumeration
import CombatContent.Json.Record
import CombatContent.Ron.Record

/-!
# Settings

The settings say where the committed enumeration of technique ids is and how its block is set off.
Every one of them has a value of its own when it is not given. They are read straight from the text,
so that their JSON faults have places, and they are described once for all formats.

## Main definitions

* `Settings`: the settings.
* `Settings.members`: the members of the written form.
* `Settings.ofText`: reads them in any format.
-/

namespace CombatContent

/-- Where the enumeration is committed and how its block is set off. -/
structure EnumerationSource where
  path : String := "src/domain/cards.zig"
  format : Enumeration.Format := {}
  deriving DecidableEq, Repr

/-- The settings of the program. -/
structure Settings where
  enumeration : EnumerationSource := {}
  deriving DecidableEq, Repr

namespace EnumerationSource

/-- A member of the written form: its name, the kind of text, and what it sets. -/
structure Member where
  name : String
  kind : Typing.Wanted
  put : String → EnumerationSource → EnumerationSource

/-- The members of the written form in order. -/
def members : List Member :=
  [⟨"path", .path, fun s e => { e with path := s }⟩,
   ⟨"block_start", .text, fun s e => { e with format := { e.format with blockStart := s } }⟩,
   ⟨"block_end", .text, fun s e => { e with format := { e.format with blockEnd := s } }⟩,
   ⟨"comment_prefix", .text, fun s e => { e with format := { e.format with commentMark := s } }⟩]

/-- The name of the record. -/
def recordName : String := "OracleConfig"

end EnumerationSource

namespace Settings

/-- The name of the record. -/
def recordName : String := "ToolConfig"

/-- The name of the member for the enumeration. -/
def memberName : String := "oracle"

/-- Puts where the enumeration is. -/
def putEnumeration (e : EnumerationSource) (s : Settings) : Settings := { s with enumeration := e }

/-- Reads where the enumeration is from JSON text. -/
def jsonEnumeration : Json.Reader EnumerationSource :=
  Json.record EnumerationSource.recordName
    (EnumerationSource.members.map fun m => ⟨m.name, m.put <$> Json.typedText m.kind⟩) {}

/-- Reads settings from JSON text. -/
def json : Json.Reader Settings :=
  Json.record recordName [⟨memberName, putEnumeration <$> jsonEnumeration⟩] {}

/-- Reads where the enumeration is from RON text; `bareSome` says whether optional values in fields
that are passed over may do without parentheses. -/
def ronEnumeration (bareSome : Bool) : Ron.Reader EnumerationSource :=
  Ron.record EnumerationSource.recordName (Ron.otherField bareSome 1)
    (EnumerationSource.members.map fun m => ⟨m.name, m.put <$> Ron.string⟩) {}

/-- Reads settings from RON text; `bareSome` is as in `ronEnumeration`. -/
def ron (bareSome : Bool) : Ron.Reader Settings :=
  Ron.record recordName (Ron.otherField bareSome 0)
    [⟨memberName, putEnumeration <$> ronEnumeration bareSome⟩] {}

/-- Reads a text of some kind out of a tree. -/
def textOf (kind : Typing.Wanted) : Typing.Reader String
  | .text s => .ok s
  | t => Typing.refuse kind t

/-- Where the enumeration is, as a record of a tree. -/
def enumerationShape : Typing.Shape EnumerationSource where
  name := EnumerationSource.recordName
  fields := EnumerationSource.members.map fun m => Typing.field m.name (textOf m.kind) m.put
  start := {}

/-- Reads where the enumeration is out of a tree. Elements of a list beyond its fields are passed
over. -/
def enumerationOf : Typing.Reader EnumerationSource
  | .list items => enumerationShape.readList (items.take enumerationShape.fields.length)
  | t => enumerationShape.read t

/-- Settings, as a record of a tree. -/
def shape : Typing.Shape Settings where
  name := recordName
  fields := [Typing.field memberName enumerationOf putEnumeration]
  start := {}

/-- Reads settings from TOML text. -/
def ofToml? (text : List Char) : Option Settings := do
  let t ← Toml.ofText text
  (shape.read t).toOption

/-- Reads settings; `origin` says in faults where the text is from. -/
def ofText (format : DocumentFormat) (origin text : String) : Except LoadFault Settings :=
  let cs := text.toList
  match format with
  | .json => Document.jsonAnswer origin cs (Json.wholeText json cs)
  | .ron => Document.plainAnswer origin (Ron.wholeText ron cs)
  | .toml => Document.plainAnswer origin (ofToml? cs)

end Settings

end CombatContent
