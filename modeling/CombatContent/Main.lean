import CombatContent.CommandLine.Run

/-!
# The program

Runs a command line on the files and streams of the system.
-/

namespace CombatContent.CommandLine

/-- What a fault of the system means for a file. -/
def fileFaultOf : IO.Error → FileFault
  | .noFileOrDirectory .. => .notFound
  | .inappropriateType .. => .isFolder
  | _ => .unreadable

/-- Reads a file of the system as text. -/
def readSystemFile (path : String) : IO (Except FileFault String) := do
  try
    return decodeText (← IO.FS.readBinFile path)
  catch e =>
    return .error (fileFaultOf e)

/-- Whether the path leads to something of the system, readable or not. -/
def isSystemFile (path : String) : IO Bool := do
  try
    let _ ← IO.FS.realPath path
    return true
  catch _ => return false

/-- Writes a file of the system. -/
def writeSystemFile (path text : String) : IO Bool := do
  try
    IO.FS.writeFile path text
    return true
  catch _ => return false

/-- The files of the system. -/
def systemFiles : FileAccess IO := ⟨readSystemFile, isSystemFile, writeSystemFile⟩

end CombatContent.CommandLine

open CombatContent.CommandLine in
/-- Runs the command line, and exits with the code of its outcome. -/
def main (words : List String) : IO UInt32 := do
  let outcome ← run systemFiles (do (← IO.getStdin).readBinToEnd) words
  (← IO.getStdout).putStr outcome.output
  if let some complaint := outcome.complaint then
    (← IO.getStderr).putStrLn ("error: " ++ complaint)
  return outcome.exit.code.toUInt32
