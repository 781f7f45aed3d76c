import MailMerge.Command.Arguments
import MailMerge.Command.Scalars
import MailMerge.Package.Basic
import MailMerge.Template.Merge

/-!
# `MailMerge.Command.Values`: property values from the command line

Values come from a file, if one is named, and from parameters, which win over the file.
-/

set_option autoImplicit false

namespace MailMerge

/-- Why there are no property values. -/
inductive ValuesError where
  | badParameter (text : String)
  | unreadableFile (path : String)
  | notScalars (path : String)
deriving DecidableEq, Repr

def ValuesError.message : ValuesError → String
  | badParameter text => "invalid parameter format '" ++ text ++ "': expected name=value"
  | unreadableFile path => "Cannot read values file " ++ path
  | notScalars path => "Values file " ++ path ++ " is not a JSON object of scalars"

/-- Reads parameters; the first that has no equals sign is reported. -/
def parseParams : List String → Except ValuesError (List (String × String))
  | [] => .ok []
  | text :: texts =>
    match parseParam? text with
    | none => .error (.badParameter text)
    | some pair => (parseParams texts).map (pair :: ·)

namespace ValueSources

variable {β : Type}

/-- The values in the named file. -/
def fileValues (format : ArchiveFormat β) (files : Files β) (path : String) :
    Except ValuesError (List (String × String)) :=
  match (files.content? path).bind format.text? with
  | none => .error (.unreadableFile path)
  | some text =>
    match Scalars.parse? text with
    | none => .error (.notScalars path)
    | some pairs => .ok pairs

/-- The values of a command. -/
def load (format : ArchiveFormat β) (files : Files β) (sources : ValueSources) :
    Except ValuesError Properties :=
  match sources.file with
  | none => .ok (.ofList sources.params)
  | some path =>
    (fileValues format files path).map fun pairs => .ofList (pairs ++ sources.params)

end ValueSources

end MailMerge
