/-!
# Invocations

The words of a command line name the document, and choose by options what is done with it. An option
that takes a value has it in the next word or after an equals sign. No option is given twice, and
after two dashes every word is the name of a document, of which there is one at most.

## Main definitions

* `Request`, `Invocation`: what is asked for.
* `UsageFault`: what is wrong with a command line.
* `Invocation.ofWords`: reads a command line from left to right, up to the first fault.
-/

namespace CombatContent.CommandLine

/-- What is asked for: the document, and where reports go and settings and committed ids come
from. -/
structure Request where
  input : Option String := none
  reportPath : Option String := none
  auditOnly : Bool := false
  settingsPath : Option String := none
  committedPath : Option String := none
  deriving DecidableEq, Repr

/-- Whether an audit is asked for instead of tables. -/
def Request.isAudit (r : Request) : Bool := r.auditOnly || r.reportPath.isSome

/-- What a command line asks for. -/
inductive Invocation where
  | help
  | run (request : Request)
  deriving DecidableEq, Repr

/-- What is wrong with a command line. -/
inductive UsageFault where
  | unknownOption (word : String)
  | missingValue (option : String)
  | emptyValue (name : String)
  | unwantedValue (option : String)
  | repeatedOption (option : String)
  | secondInput (word : String)
  deriving DecidableEq, Repr

/-- The wording of a fault. -/
def UsageFault.message : UsageFault → String
  | .unknownOption word => "unexpected argument '" ++ word ++ "' found"
  | .missingValue option => "a value is required for '" ++ option ++ "' but none was supplied"
  | .emptyValue name => "a value is required for '" ++ name ++ "' but none was supplied"
  | .unwantedValue option => "unexpected value for '" ++ option ++ "' found; no more were expected"
  | .repeatedOption option => "the argument '" ++ option ++ "' cannot be used multiple times"
  | .secondInput word => "unexpected argument '" ++ word ++ "' found"

/-- A long option: a flag, or an option with a value and what that sets. -/
inductive LongOption where
  | help
  | auditOnly
  | valued (get : Request → Option String) (put : String → Request → Request)

/-- The long options by name. -/
def longOption? : String → Option LongOption
  | "--help" => some .help
  | "--audit-only" => some .auditOnly
  | "--audit-report" => some (.valued Request.reportPath fun v r => { r with reportPath := some v })
  | "--config" => some (.valued Request.settingsPath fun v r => { r with settingsPath := some v })
  | "--oracle" => some (.valued Request.committedPath fun v r => { r with committedPath := some v })
  | _ => none

/-- What a word is by its form. -/
inductive WordForm where
  | plain
  | short
  | long (name : String) (attached : Option String)
  | endOfOptions
  deriving DecidableEq, Repr

/-- The form of a word. A single dash is plain, and an equals sign attaches a value to the name of a
long option. -/
def formOf (word : String) : WordForm :=
  match word.toList with
  | ['-', '-'] => .endOfOptions
  | '-' :: '-' :: cs =>
    let (name, rest) := ('-' :: '-' :: cs).span (· != '=')
    .long (String.ofList name) (rest.tail?.map String.ofList)
  | ['-'] => .plain
  | '-' :: _ => .short
  | _ => .plain

/-- Takes the name of the document. -/
def takeInput (r : Request) (word : String) : Except UsageFault Request :=
  if r.input.isSome then .error (.secondInput word)
  else if word.isEmpty then .error (.emptyValue "[INPUT]")
  else .ok { r with input := some word }

/-- Takes the value of an option. -/
def takeValue (r : Request) (name : String) (get : Request → Option String)
    (put : String → Request → Request) (value : String) : Except UsageFault Request :=
  if (get r).isSome then .error (.repeatedOption name)
  else if value.isEmpty then .error (.emptyValue name)
  else .ok (put value r)

/-- Takes a flag. -/
def takeFlag (r : Request) (name : String) (attached : Option String) :
    Except UsageFault Request :=
  if attached.isSome then .error (.unwantedValue name)
  else if r.auditOnly then .error (.repeatedOption name)
  else .ok { r with auditOnly := true }

/-- What a word with one dash in front asks for. -/
def shortOption (word : String) : Except UsageFault Invocation :=
  if word.toList[1]? = some 'h' then .ok .help else .error (.unknownOption word)

namespace Invocation

/-- Reads words onto a request. -/
def ofWordsFrom (r : Request) : List String → Except UsageFault Invocation
  | [] => .ok (.run r)
  | word :: words =>
    match formOf word with
    | .endOfOptions => (words.foldlM takeInput r).map .run
    | .plain => do
      let r ← takeInput r word
      ofWordsFrom r words
    | .short => shortOption word
    | .long name attached =>
      match longOption? name, attached, words with
      | none, _, _ => .error (.unknownOption word)
      | some .help, none, _ => .ok .help
      | some .help, some _, _ => .error (.unwantedValue name)
      | some .auditOnly, attached, words => do
        let r ← takeFlag r name attached
        ofWordsFrom r words
      | some (.valued get put), some value, words => do
        let r ← takeValue r name get put value
        ofWordsFrom r words
      | some (.valued _ _), none, [] => .error (.missingValue name)
      | some (.valued get put), none, value :: words =>
        if formOf value = .plain then do
          let r ← takeValue r name get put value
          ofWordsFrom r words
        else .error (.missingValue name)

/-- Reads a command line. -/
def ofWords (words : List String) : Except UsageFault Invocation :=
  ofWordsFrom {} words

end Invocation

end CombatContent.CommandLine
