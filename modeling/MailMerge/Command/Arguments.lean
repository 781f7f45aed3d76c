import MailMerge.Field.Merge

/-!
# `MailMerge.Command.Arguments`: the command line

Arguments are options, which begin with a dash, and others. `Grammar` says which options a level of
the command line knows; `Grammar.scan` splits arguments by it, and `parseArguments` makes a request
of them. An option is given at most once unless it may be repeated, and options that take a value
must get one. The level of the whole program ends at the name of a command.
-/

set_option autoImplicit false

namespace MailMerge

/-! ### Splitting arguments -/

/-- The options of a level, in the words of its grammar. -/
inductive OptionName where
  | color
  | verbose
  | template
  | output
  | param
  | values
  | lang
  | strict
  | json
  | expr
deriving DecidableEq, Repr

/-- Options that stand alone, without a value. -/
def OptionName.isFlag : OptionName → Bool
  | .verbose | .strict | .json => true
  | _ => false

/-- The name after two dashes. -/
def OptionName.long : OptionName → String
  | .color => "color"
  | .verbose => "verbose"
  | .template => "template"
  | .output => "output"
  | .param => "param"
  | .values => "values"
  | .lang => "lang"
  | .strict => "strict"
  | .json => "json"
  | .expr => "expr"

/-- The letter after one dash. -/
def OptionName.short? : OptionName → Option Char
  | .verbose => some 'v'
  | .param => some 'p'
  | _ => none

/-- What a level of the command line knows. -/
structure Grammar where
  options : List OptionName
  /-- How many arguments that are no options there may be. -/
  operands : Nat
  /-- Whether the first argument that is no option names a command. -/
  hasCommands : Bool
  /-- Whether the version can be asked for. -/
  hasVersion : Bool

/-- Options with their values, flags with an empty one, and other arguments, in order. -/
inductive Item where
  | option (name : OptionName) (value : String)
  | operand (value : String)
deriving DecidableEq, Repr

/-- How a level ends. -/
inductive Ending where
  | done
  | command (name : String) (arguments : List String)
  | help
  | version
  | usage
deriving DecidableEq, Repr

namespace Grammar

/-- The option of a long name. -/
def long? (g : Grammar) (name : String) : Option OptionName :=
  g.options.find? (·.long = name)

/-- The option of a letter. -/
def short? (g : Grammar) (c : Char) : Option OptionName :=
  g.options.find? (·.short? = some c)

/-- Whether an argument can be the value of an option before it: a lone dash, or without a dash at
its front. -/
def isValue (argument : String) : Bool :=
  argument = "-" || argument.toList.head? ≠ some '-'

/-- What a group of letters after one dash says: flags, and whether it ends with an option that
waits for a value or has one. -/
inductive Letters where
  | flags (names : List OptionName)
  | waiting (names : List OptionName) (option : OptionName)
  | valued (names : List OptionName) (option : OptionName) (value : String)
  | ending (names : List OptionName) (ending : Ending)

/-- Adds a flag at the front. -/
def Letters.cons (flag : OptionName) : Letters → Letters
  | .flags names => .flags (flag :: names)
  | .waiting names option => .waiting (flag :: names) option
  | .valued names option value => .valued (flag :: names) option value
  | .ending names e => .ending (flag :: names) e

/-- Reads the letters after one dash. The value of an option may follow its letter, after an equals
sign or at once. -/
def letters (g : Grammar) : List Char → Letters
  | [] => .flags []
  | c :: cs =>
    match g.short? c with
    | some option =>
      if option.isFlag then (g.letters cs).cons option
      else
        match cs with
        | [] => .waiting [] option
        | '=' :: value => .valued [] option (.ofList value)
        | value => .valued [] option (.ofList value)
    | none =>
      if c = 'h' then .ending [] .help
      else if c = 'V' ∧ g.hasVersion then .ending [] .version
      else .ending [] .usage

/-- The name and the value of a long option. -/
def splitLong (text : List Char) : String × Option String :=
  match text.dropWhile (· != '=') with
  | [] => (.ofList text, none)
  | _ :: value => (.ofList (text.takeWhile (· != '=')), some (.ofList value))

/-- Flags as items. -/
def flagItems (names : List OptionName) : List Item := names.map (.option · "")

/-- Puts items before those of a result. -/
def prepend (items : List Item) (result : List Item × Ending) : List Item × Ending :=
  (items ++ result.1, result.2)

/-- Splits arguments; `left` counts the operands that may still come. -/
def scanFrom (g : Grammar) (left : Nat) : List String → List Item × Ending
  | [] => ([], .done)
  | argument :: arguments =>
    match argument.toList with
    | ['-', '-'] =>
      -- All that follows is operands, whatever it looks like.
      if arguments.length ≤ left ∧ !g.hasCommands then (arguments.map .operand, .done)
      else ([], if arguments.isEmpty then .done else .usage)
    | '-' :: '-' :: text =>
      let (name, value?) := splitLong text
      match g.long? name, value? with
      | some option, none =>
        if option.isFlag then prepend [.option option ""] (g.scanFrom left arguments)
        else
          match arguments with
          | value :: arguments =>
            if isValue value then prepend [.option option value] (g.scanFrom left arguments)
            else ([], .usage)
          | [] => ([], .usage)
      | some option, some value =>
        if option.isFlag then ([], .usage)
        else prepend [.option option value] (g.scanFrom left arguments)
      | none, _ =>
        if name = "help" ∧ value?.isNone then ([], .help)
        else if name = "version" ∧ g.hasVersion ∧ value?.isNone then ([], .version)
        else ([], .usage)
    | '-' :: c :: cs =>
      match g.letters (c :: cs) with
      | .flags names => prepend (flagItems names) (g.scanFrom left arguments)
      | .valued names option value =>
        prepend (flagItems names ++ [.option option value]) (g.scanFrom left arguments)
      | .ending names e => (flagItems names, e)
      | .waiting names option =>
        match arguments with
        | value :: arguments =>
          if isValue value then
            prepend (flagItems names ++ [.option option value]) (g.scanFrom left arguments)
          else ([], .usage)
        | [] => ([], .usage)
    | _ =>
      if g.hasCommands then ([], .command argument arguments)
      else if left = 0 then ([], .usage)
      else prepend [.operand argument] (g.scanFrom (left - 1) arguments)

/-- Splits arguments. -/
def scan (g : Grammar) (arguments : List String) : List Item × Ending :=
  g.scanFrom g.operands arguments

end Grammar

/-! ### Commands -/

/-- When output is coloured. -/
inductive ColorChoice where
  | auto
  | always
  | never
deriving DecidableEq, Repr

/-- Where property values come from. -/
structure ValueSources where
  params : List (String × String)
  file : Option String
deriving DecidableEq, Repr

/-- What to do. -/
inductive Command where
  | merge (template output : String) (values : ValueSources) (language : Language)
      (strict json : Bool)
  | fields (document : String) (json : Bool)
  | eval (expression : String) (values : ValueSources) (json : Bool)
deriving DecidableEq, Repr

/-- What the command line asks for. -/
inductive Request where
  | run (color : ColorChoice) (command : Command)
  | help
  | version
  | usage
deriving DecidableEq, Repr

/-- The grammar before the name of a command. -/
def programGrammar : Grammar := ⟨[.color, .verbose], 0, true, true⟩

/-- The grammar of `merge`. -/
def mergeGrammar : Grammar :=
  ⟨[.template, .output, .param, .values, .lang, .strict, .json, .color, .verbose],
    0, false, false⟩

/-- The grammar of `fields`. -/
def fieldsGrammar : Grammar := ⟨[.json, .color, .verbose], 1, false, false⟩

/-- The grammar of `eval`. -/
def evalGrammar : Grammar :=
  ⟨[.expr, .param, .values, .json, .color, .verbose], 0, false, false⟩

/-- A property value given as `name=value`. -/
def parseParam? (text : String) : Option (String × String) :=
  match text.toList.dropWhile (· != '=') with
  | [] => none
  | _ :: value => some (.ofList (text.toList.takeWhile (· != '=')), .ofList value)

/-- The choice of a name. -/
def ColorChoice.ofName? (name : String) : Option ColorChoice :=
  if name = "auto" then some .auto
  else if name = "always" then some .always
  else if name = "never" then some .never
  else none

/-- The language of a code. -/
def Language.ofCode? (code : String) : Option Language :=
  if code = "en" then some .english else if code = "ru" then some .russian else none

/-- Whether the value of an option can be read. -/
def Item.isValid : Item → Bool
  | .option .param value => (parseParam? value).isSome
  | .option .color value => (ColorChoice.ofName? value).isSome
  | .option .lang value => (Language.ofCode? value).isSome
  | .option .template value | .option .output value | .option .values value => value ≠ ""
  | .option _ _ => true
  | .operand value => value ≠ ""

/-- Whether an item may be followed by another of its option. -/
def Item.mayRepeat : Item → Bool
  | .option .param _ | .operand _ => true
  | _ => false

/-- The option that an item is about. -/
def Item.option? : Item → Option OptionName
  | .option name _ => some name
  | .operand _ => none

/-- Whether all values can be read and no option is given twice that may not. -/
def validItems : List Item → Bool
  | [] => true
  | item :: items =>
    item.isValid && (item.mayRepeat || items.all (·.option? ≠ item.option?)) && validItems items

/-- The value of an option. -/
def optionValue? (items : List Item) (name : OptionName) : Option String :=
  items.findSome? fun
    | .option n value => if n = name then some value else none
    | .operand _ => none

/-- Whether a flag is given. -/
def hasFlag (items : List Item) (name : OptionName) : Bool := (optionValue? items name).isSome

/-- The sources of property values among items. -/
def valueSources (items : List Item) : ValueSources where
  params := items.filterMap fun
    | .option .param value => parseParam? value
    | _ => none
  file := optionValue? items .values

/-- The command that items make up, if nothing is missing. -/
def mergeCommand? (items : List Item) : Option Command :=
  match optionValue? items .template, optionValue? items .output with
  | some template, some output =>
    let language := ((optionValue? items .lang).bind Language.ofCode?).getD .english
    some (.merge template output (valueSources items) language (hasFlag items .strict)
      (hasFlag items .json))
  | _, _ => none

/-- The command that items make up, if nothing is missing. -/
def fieldsCommand? (items : List Item) : Option Command :=
  let document? := items.findSome? fun
    | .operand value => some value
    | _ => none
  document?.map fun document => .fields document (hasFlag items .json)

/-- The command that items make up, if nothing is missing. -/
def evalCommand? (items : List Item) : Option Command :=
  (optionValue? items .expr).map fun expression =>
    .eval expression (valueSources items) (hasFlag items .json)

/-- The grammar of a command and how its items make it up. -/
def commandNamed? (name : String) : Option (Grammar × (List Item → Option Command)) :=
  if name = "merge" then some (mergeGrammar, mergeCommand?)
  else if name = "fields" then some (fieldsGrammar, fieldsCommand?)
  else if name = "eval" then some (evalGrammar, evalCommand?)
  else none

/-- The colour asked for at the level of the command, or else before it. -/
def colorOf (outer inner : List Item) : ColorChoice :=
  (((optionValue? inner .color).or (optionValue? outer .color)).bind ColorChoice.ofName?).getD .auto

/-- The name of the command that explains others. -/
def helpCommand : String := "help"

/-- Whether there is help about what arguments name: the program, or one of its commands. -/
def isHelpTopic : List String → Bool
  | [] => true
  | [name] => name = helpCommand || (commandNamed? name).isSome
  | _ => false

/-- What the arguments of a command ask for. -/
def parseCommand (outer : List Item) (name : String) (arguments : List String) : Request :=
  match commandNamed? name with
  | none => if name = helpCommand ∧ isHelpTopic arguments then .help else .usage
  | some (grammar, build) =>
    match grammar.scan arguments with
    | (items, ending) =>
      -- A value that cannot be read is reported even where help is asked for behind it.
      if !validItems items then .usage
      else
        match ending with
        | .done =>
          match build items with
          | some command => .run (colorOf outer items) command
          | none => .usage
        | .help => .help
        | .version => .version
        | .command _ _ | .usage => .usage

/-- What the arguments of the program ask for. -/
def parseArguments (arguments : List String) : Request :=
  match programGrammar.scan arguments with
  | (items, ending) =>
    if !validItems items then .usage
    else
      match ending with
      | .command name arguments => parseCommand items name arguments
      | .help => .help
      | .version => .version
      | .done | .usage => .usage

end MailMerge
