import MailMerge.Archive.Zip
import MailMerge.Command.Run

/-!
# `MailMerge.Main`: the program

Reads the files that the command line names, carries out the command, and writes what it changed.
-/

set_option autoImplicit false

namespace MailMerge

/-- The content of a file, if it can be read. -/
def readFile? (path : String) : IO (Option ByteArray) := do
  try
    return some (← IO.FS.readBinFile path)
  catch _ =>
    return none

/-- Whether a path leads to a folder. -/
def isFolder (path : String) : IO Bool := do
  try
    let _ ← IO.FS.Handle.mk (path ++ "/.") .read
    return true
  catch _ =>
    return false

/-- A path up to its last slash. -/
def folderOf? (path : String) : Option String :=
  (Text.cutLast? '/' path.toList).map fun (folder, _) => .ofList (folder ++ ['/'])

/-- What is at paths, and the folders for those where nothing is. -/
def readFiles : List String → IO (Files ByteArray)
  | [] => return Files.empty
  | path :: paths => do
    let files ← readFiles paths
    if let some content ← readFile? path then return files.add path content
    if ← isFolder path then return files.addFolder path
    match folderOf? path with
    | some folder => return if ← isFolder folder then files.addFolder folder else files
    | none => return files

/-- Writes the files at paths that are not as before. -/
def writeFiles (before after : Files ByteArray) (paths : List String) : IO Unit := do
  for path in paths do
    if let some content := after.content? path then
      unless before.content? path == some content do
        IO.FS.writeBinFile path content

/-- Prints what a run prints, and ends with its code. -/
def finish (outcome : Outcome ByteArray) : IO UInt32 := do
  IO.print outcome.stdout
  IO.eprint outcome.stderr
  return outcome.code.toUInt32

/-- Runs the program. -/
def runProgram (arguments : List String) : IO UInt32 := do
  let isTerminal ← (← IO.getStdout).isTty
  let request := (parseArguments arguments).onOutput isTerminal
  let files ← readFiles (request.reads ++ request.writes)
  let outcome := runRequest Zip.format files request
  try
    writeFiles files outcome.files request.writes
    finish outcome
  catch e =>
    finish (failure files e.toString)

end MailMerge

def main (arguments : List String) : IO UInt32 := MailMerge.runProgram arguments
