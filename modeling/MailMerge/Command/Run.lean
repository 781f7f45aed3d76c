import MailMerge.Command.Listing
import MailMerge.Command.Values
import MailMerge.Expression.Builtin
import MailMerge.Expression.Diagnostic

/-!
# `MailMerge.Command.Run`: what a command line does

`runArguments` is the whole program as a function: from the arguments and the files to what it
prints, the files it leaves and its exit code.
-/

set_option autoImplicit false

namespace MailMerge

/-- What a run of the program leaves behind. -/
structure Outcome (β : Type) where
  code : UInt8
  stdout : String
  stderr : String
  files : Files β

/-- All went well. -/
def exitOk : UInt8 := 0

/-- The arguments make no command. -/
def exitUsage : UInt8 := 2

/-- Values are missing, or fields could not be filled in where all should be. -/
def exitData : UInt8 := 65

/-- The command could not be carried out. -/
def exitFailure : UInt8 := 70

/-- The name and version of the program. -/
def versionText : String := "docmerge 0.1.0"

/-- How the program is called. -/
def usageText : String :=
  "Usage: docmerge <merge|fields|eval> [OPTIONS]"

/-- Lines, each with its end. -/
def unlines (lines : List String) : String := String.join (lines.map (· ++ "\n"))

variable {β : Type}

/-- A run that fails with a message. -/
def failure (files : Files β) (message : String) : Outcome β :=
  ⟨exitFailure, "", unlines ["Error: " ++ message], files⟩

/-! ### Filling in a template -/

/-- The kind of a field error, as a word. -/
def FieldError.kind : FieldError → String
  | .invalidExpression _ => "invalid_expression"
  | .missingField _ => "missing_field"

/-- A field error as an object. -/
def FieldError.toJson (language : Language) (e : FieldError) : Json :=
  .object
    [("kind", .text e.kind), ("name", .text e.subject), ("message", .text (e.message language))]

/-- A word in a colour, where output is coloured. -/
def colored (color : ColorChoice) (number word : String) : String :=
  if color = .always then "\x1b[" ++ number ++ "m" ++ word ++ "\x1b[39m" else word

/-- The report of a merge for people. -/
def mergeReport (color : ColorChoice) (language : Language) (output : String)
    (errors : List FieldError) : String :=
  unlines
    (errors.map (fun e => colored color "33" "warning:" ++ " " ++ e.message language)
      ++ [colored color "32" "Wrote" ++ " " ++ output ++ " (" ++ toString errors.length
        ++ " field errors)"])

/-- Fills in a template. -/
def runMerge (format : ArchiveFormat β) (color : ColorChoice) (files : Files β)
    (template output : String) (values : ValueSources) (language : Language)
    (strict json : Bool) : Outcome β :=
  match values.load format files with
  | .error e => failure files e.message
  | .ok properties =>
    match mergeTemplate format builtinFunctions properties files template output with
    | (files, .error e) => failure files ("Failed to merge " ++ template ++ ": " ++ e.message)
    | (files, .ok errors) =>
      let report :=
        if json then unlines [(Json.array (errors.map (FieldError.toJson language))).pretty]
        else mergeReport color language output errors
      ⟨if strict && !errors.isEmpty then exitData else exitOk, report, "", files⟩

/-! ### Listing fields -/

/-- The placeholders of the document at a path. -/
def listFields (format : ArchiveFormat β) (files : Files β) (document : String) :
    Except DocumentError (List FieldRow) :=
  match DocumentKind.ofPath? document with
  | none => .error (.unsupportedFormat document)
  | some kind =>
    match findDocument files document with
    | .error e => .error e
    | .ok (_, content) =>
      match Package.load format content with
      | .error e => .error e
      | .ok p => p.rows kind

/-- Lists the placeholders of a document. -/
def runFields (format : ArchiveFormat β) (files : Files β) (document : String) (json : Bool) :
    Outcome β :=
  match listFields format files document with
  | .error e => failure files e.message
  | .ok rows =>
    let report :=
      if json then (Json.array (rows.map (FieldRow.toJson builtinFunctions))).pretty
      else if rows.isEmpty then "No merge fields in " ++ document
      else fieldsTable builtinFunctions rows
    ⟨exitOk, unlines [report], "", files⟩

/-! ### Evaluating an expression -/

/-- A property without a value, as an object. -/
def missingJson (properties : Properties) (name : String) : Json :=
  .object
    [("name", .text name),
     ("suggestions", .array ((suggestions name properties.names).map .text))]

/-- A property without a value, as a line. -/
def missingLine (properties : Properties) (name : String) : String :=
  "Missing value for field '" ++ name ++ "'" ++ didYouMean (suggestions name properties.names)

/-- The report of properties without values. -/
def missingReport (properties : Properties) (names : List String) (json : Bool) : String :=
  if json then
    unlines [(Json.object [("missing", .array (names.map (missingJson properties)))]).pretty]
  else unlines (names.map (missingLine properties))

/-- The report of a fault in the evaluation. -/
def evalErrorReport (e : EvalError) (json : Bool) : String :=
  if json then unlines [(Json.object [("error", .text e.message)]).pretty]
  else unlines ["Evaluation error: " ++ e.message]

/-- The report of a value. -/
def valueReport (value : String) (json : Bool) : String :=
  if json then unlines [(Json.object [("result", .text value)]).pretty] else unlines [value]

/-- Evaluates an expression. -/
def runEval (format : ArchiveFormat β) (files : Files β) (expression : String)
    (values : ValueSources) (json : Bool) : Outcome β :=
  match values.load format files with
  | .error e => failure files e.message
  | .ok properties =>
    match Expression.parse builtinFunctions expression with
    | .error e =>
      let diagnostic := Diagnostic.ofParseError builtinFunctions expression e
      failure files (diagnostic.message ++ "\n  help: " ++ diagnostic.help)
    | .ok e =>
      match e.missing properties with
      | name :: names =>
        ⟨exitData, "", missingReport properties (name :: names) json, files⟩
      | [] =>
        match e.evaluate builtinFunctions properties with
        | .error e => ⟨exitData, "", evalErrorReport e json, files⟩
        | .ok value => ⟨exitOk, valueReport value json, "", files⟩

/-! ### The program -/

/-- Carries out a command. -/
def runCommand (format : ArchiveFormat β) (color : ColorChoice) (files : Files β) :
    Command → Outcome β
  | .merge template output values language strict json =>
    runMerge format color files template output values language strict json
  | .fields document json => runFields format files document json
  | .eval expression values json => runEval format files expression values json

/-- Carries out what is asked for. -/
def runRequest (format : ArchiveFormat β) (files : Files β) : Request → Outcome β
  | .run color command => runCommand format color files command
  | .help => ⟨exitOk, unlines [usageText], "", files⟩
  | .version => ⟨exitOk, unlines [versionText], "", files⟩
  | .usage => ⟨exitUsage, "", unlines [usageText], files⟩

/-- Carries out what the arguments ask for. -/
def runArguments (format : ArchiveFormat β) (files : Files β) (arguments : List String) :
    Outcome β :=
  runRequest format files (parseArguments arguments)

/-! ### What a request is about -/

/-- The request with colours where they are left to the output, if that is a terminal. -/
def Request.onOutput (isTerminal : Bool) : Request → Request
  | .run .auto command => .run (if isTerminal then .always else .never) command
  | request => request

/-- The files that a command reads. -/
def Command.reads : Command → List String
  | .merge template _ values _ _ _ => template :: values.file.toList
  | .fields document _ => [document]
  | .eval _ values _ => values.file.toList

/-- The files that a command writes. -/
def Command.writes : Command → List String
  | .merge _ output _ _ _ _ => [output]
  | .fields .. | .eval .. => []

/-- The files that a request reads. -/
def Request.reads : Request → List String
  | .run _ command => command.reads
  | _ => []

/-- The files that a request writes. -/
def Request.writes : Request → List String
  | .run _ command => command.writes
  | _ => []

end MailMerge
