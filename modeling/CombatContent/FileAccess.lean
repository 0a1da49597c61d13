/-!
# Access to files

The program sees files through three operations, whatever holds them. Reading gives text: bytes that
are no UTF-8 are refused.

## Main definitions

* `FileAccess`: the operations.
* `Path.extension?`: the extension of the file that a path names.
-/

namespace CombatContent

/-- Why a file could not be read. -/
inductive FileFault where
  | notFound
  | isFolder
  | notFolder
  | notText
  | unreadable
  deriving DecidableEq, Repr

/-- The operations on files, by path. Writing replaces what was there, and says whether it was
done. -/
structure FileAccess (m : Type → Type) where
  read : String → m (Except FileFault String)
  isThere : String → m Bool
  write : String → String → m Bool

/-- The text that bytes hold. -/
def decodeText (bytes : ByteArray) : Except FileFault String :=
  match String.fromUTF8? bytes with
  | some text => .ok text
  | none => .error .notText

namespace Path

/-- The steps of a path, which slashes part. -/
def steps (path : String) : List String :=
  (go path.toList).map String.ofList
where
  go : List Char → List (List Char)
    | [] => [[]]
    | c :: cs =>
      match go cs with
      | [] => [[c]]
      | step :: rest => if c = '/' then [] :: step :: rest else (c :: step) :: rest

/-- The name of the file that a path names: its last step that moves, unless that leads up. -/
def fileName? (path : String) : Option String :=
  ((steps path).filter fun step => step != "" && step != ".").getLast?.filter (· != "..")

/-- What follows the last point of a name, unless nothing stands before the point. -/
def nameExtension? (name : String) : Option String :=
  let (back, rest) := name.toList.reverse.span (· != '.')
  match rest with
  | [] => none
  | _ :: front => if front.isEmpty then none else some (String.ofList back.reverse)

/-- The extension of the file that a path names. -/
def extension? (path : String) : Option String :=
  (fileName? path).bind nameExtension?

end Path

end CombatContent
