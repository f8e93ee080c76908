import PluginDiscovery.Config.Schema
import PluginDiscovery.Text.KeyValue

/-!
# The command line

What a user asks for with the words of a command line. Options for the whole program stand before
the command, options of a command after it. An option is given by its long name or by its letter,
its value in the same word or in the next one; a value in a word of its own does not begin with a
dash, except that a dash alone is one. Two dashes end the options.

* `Invocation`: a command with its options, and the options for the whole program;
* `OptionTable.scan`: reads options up to the first other word;
* `Invocation.parse`: the invocation that a list of words spells, or why it spells none.

Words are read from the left, and the first thing that ends the reading counts, be it a mistake or
a request for help or the version.
-/

namespace PluginDiscovery

/-! ## 1. Invocations -/

/-- The form of a listing. -/
inductive OutputFormat where
  | table
  | json
  deriving DecidableEq, Repr

/-- The format of a name. -/
def OutputFormat.ofName? (name : String) : Option OutputFormat :=
  if name = "table" then some .table else if name = "json" then some .json else none

/-- What is to be done. -/
inductive Command where
  | list (silent : Bool)
  | dump (silent : Bool)
  | directories
  | types
  | showConfig
  | validateConfig
  | generateConfig (output : String)
  deriving DecidableEq, Repr

/-- A command with the options for the whole program. -/
structure Invocation where
  config : String
  environment : String
  format : OutputFormat
  command : Command
  deriving DecidableEq, Repr

/-- A mistake in a command line. -/
inductive UsageError where
  | unexpected (word : String)
  | unknownCommand (word : String)
  | missingCommand
  | missingValue (option : String)
  | unwantedValue (option value : String)
  | repeated (option : String)
  | unknownFormat (value : String)
  deriving DecidableEq, Repr

/-- The text of a mistake. -/
def UsageError.message : UsageError → String
  | .unexpected word => "unexpected argument '" ++ word ++ "' found"
  | .unknownCommand word => "unrecognized subcommand '" ++ word ++ "'"
  | .missingCommand => "a subcommand is required but was not provided"
  | .missingValue option => "a value is required for '--" ++ option ++ "' but none was supplied"
  | .unwantedValue option value =>
    "unexpected value '" ++ value ++ "' for '--" ++ option ++ "' found; no more were expected"
  | .repeated option => "the argument '--" ++ option ++ "' cannot be used multiple times"
  | .unknownFormat value => "invalid value '" ++ value ++ "' for '--format'"

/-- What ends the reading of a command line before a command is known. -/
inductive Halt where
  | mistake (e : UsageError)
  | help
  | version
  deriving DecidableEq, Repr

/-! ## 2. Options -/

/-- An option: its long name, its letter, and whether it takes a value. -/
structure OptionSpec where
  name : String
  letter : Option Char
  takesValue : Bool
  deriving DecidableEq, Repr

/-- The options that may be given at some place. -/
abbrev OptionTable := List OptionSpec

/-- The options that were given, with their values, the latest first. -/
abbrev Given := List (String × String)

namespace OptionTable

/-- The option that asks for help. -/
def help : OptionSpec := ⟨"help", some 'h', false⟩

/-- The option that asks for the version. -/
def version : OptionSpec := ⟨"version", some 'V', false⟩

/-- Adds an option to the given ones. A request ends the reading, and no option is given twice. -/
def add (given : Given) (spec : OptionSpec) (value : String) : Except Halt Given :=
  if spec = help then .error .help
  else if spec = version then .error .version
  else if (given.lookup spec.name).isSome then .error (.mistake (.repeated spec.name))
  else if spec.name = "format" ∧ (OutputFormat.ofName? value).isNone then
    .error (.mistake (.unknownFormat value))
  else .ok ((spec.name, value) :: given)

/-- Whether a word can be the value of the option before it. -/
def isValue (word : String) : Bool :=
  !word.startsWith "-" || word = "-"

/-- What an option does after its word: it is complete, or it waits for its value. -/
inductive Progress where
  | complete (given : Given)
  | waiting (spec : OptionSpec) (given : Given)

/-- Reads a word of an option's long name, with its dashes left out. -/
def long (table : OptionTable) (given : Given) (word : String) (body : List Char) :
    Except Halt Progress :=
  let (name, attached) := match KeyValue.split? body with
    | some (name, value) => (String.ofList name, some (String.ofList value))
    | none => (String.ofList body, none)
  match table.find? fun spec => spec.name = name with
  | none => .error (.mistake (.unexpected word))
  | some spec =>
    match spec.takesValue, attached with
    | true, some value => (add given spec value).map .complete
    | true, none => .ok (.waiting spec given)
    | false, some value => .error (.mistake (.unwantedValue name value))
    | false, none => (add given spec "").map .complete

/-- Reads a word of letters, with its dash left out. What follows the letter of an option that takes
    a value is the value, without an equals sign at its beginning. -/
def letters (table : OptionTable) (given : Given) (word : String) :
    List Char → Except Halt Progress
  | [] => .ok (.complete given)
  | c :: rest =>
    match table.find? fun spec => spec.letter = some c with
    | none => .error (.mistake (.unexpected word))
    | some spec =>
      if spec.takesValue then
        match rest with
        | [] => .ok (.waiting spec given)
        | '=' :: value => (add given spec (String.ofList value)).map .complete
        | value => (add given spec (String.ofList value)).map .complete
      else (add given spec "").bind fun given => letters table given word rest

/-- Reads options up to the first word that is none: the options given, and that word with the ones
    after it. After two dashes no word may follow. -/
def scan (table : OptionTable) (given : Given) :
    List String → Except Halt (Given × Option (String × List String))
  | [] => .ok (given, none)
  | word :: rest =>
    let progress : Option (Except Halt Progress) :=
      match word.toList with
      | '-' :: '-' :: [] => none
      | '-' :: '-' :: body => some (long table given word body)
      | '-' :: c :: cs => some (letters table given word (c :: cs))
      | _ => none
    match progress, rest with
    | none, [] => if word = "--" then .ok (given, none) else .ok (given, some (word, []))
    | none, next :: more =>
      if word = "--" then .error (.mistake (.unexpected next))
      else .ok (given, some (word, next :: more))
    | some (.error halt), _ => .error halt
    | some (.ok (.complete given)), rest => scan table given rest
    | some (.ok (.waiting spec _)), [] => .error (.mistake (.missingValue spec.name))
    | some (.ok (.waiting spec given)), value :: more =>
      if isValue value then (add given spec value).bind fun given => scan table given more
      else .error (.mistake (.missingValue spec.name))

/-- Reads options that no other word may follow. -/
def scanAll (table : OptionTable) (words : List String) : Except Halt Given := do
  match ← scan table [] words with
  | (given, none) => .ok given
  | (_, some (word, _)) => .error (.mistake (.unexpected word))

end OptionTable

/-! ## 3. Commands -/

namespace Command

/-- The names of the commands. -/
def names : List String := ["list", "dump", "dirs", "types", "config", "help"]

/-- The names of the commands for the configuration. -/
def configNames : List String := ["show", "validate", "generate", "help"]

/-- Where the configuration is written to unless another file is named. -/
def defaultOutput : String := "config/generated.toml"

/-- The option that silences reports. -/
def silent : OptionSpec := ⟨"silent", none, false⟩

/-- The option that names the file to write. -/
def output : OptionSpec := ⟨"output", some 'o', true⟩

/-- A command for plugins, with its options. -/
def withSilent (make : Bool → Command) (words : List String) : Except Halt Command := do
  let given ← OptionTable.scanAll [silent, OptionTable.help] words
  return make (given.lookup "silent").isSome

/-- A command without options. -/
def alone (command : Command) (words : List String) : Except Halt Command := do
  let _ ← OptionTable.scanAll [OptionTable.help] words
  return command

/-- Answers a request for help on the command that the words name. -/
def help (names : List String) : List String → Halt
  | [] => .help
  | word :: rest =>
    if !names.contains word then .mistake (.unknownCommand word)
    else help (if word = "config" then configNames else []) rest

/-- A command for the configuration. -/
def parseConfig (words : List String) : Except Halt Command := do
  match ← OptionTable.scan [OptionTable.help] [] words with
  | (_, none) => .error (.mistake .missingCommand)
  | (_, some (word, rest)) =>
    if word = "show" then alone .showConfig rest
    else if word = "validate" then alone .validateConfig rest
    else if word = "generate" then
      let given ← OptionTable.scanAll [output, OptionTable.help] rest
      return .generateConfig ((given.lookup "output").getD defaultOutput)
    else if word = "help" then .error (help configNames rest)
    else .error (.mistake (.unknownCommand word))

/-- The command that a word names, with its options in the words after it. -/
def parse (word : String) (rest : List String) : Except Halt Command :=
  if word = "list" then withSilent .list rest
  else if word = "dump" then withSilent .dump rest
  else if word = "dirs" then alone .directories rest
  else if word = "types" then alone .types rest
  else if word = "config" then parseConfig rest
  else if word = "help" then .error (help names rest)
  else .error (.mistake (.unknownCommand word))

end Command

namespace Invocation

/-- The options for the whole program. -/
def options : OptionTable :=
  [⟨"config", some 'c', true⟩, ⟨"env", some 'e', true⟩, ⟨"format", some 'f', true⟩,
   OptionTable.help, OptionTable.version]

/-- The invocation that the words of a command line spell. -/
def parse (words : List String) : Except Halt Invocation := do
  match ← options.scan [] words with
  | (_, none) => .error (.mistake .missingCommand)
  | (given, some (word, rest)) =>
    let command ← Command.parse word rest
    return {
      config := (given.lookup "config").getD Default.file
      environment := (given.lookup "env").getD Default.environment
      format := ((given.lookup "format").bind OutputFormat.ofName?).getD .table
      command }

end Invocation

end PluginDiscovery
