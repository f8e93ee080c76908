import PluginDiscovery.Cli.Listing
import PluginDiscovery.Cli.LogFilter
import PluginDiscovery.Cli.LogLine
import PluginDiscovery.Config.Load
import PluginDiscovery.Config.Template
import PluginDiscovery.Engine.Description
import PluginDiscovery.Engine.Discovery
import PluginDiscovery.Engine.Native
import PluginDiscovery.FileTree.Edit
import PluginDiscovery.Text.Outline

/-!
# The program

What the program does with a command line, as a function: from its surroundings to what it
writes, the code it ends with and the files it leaves behind.

* `PluginConfig.engine`: a context with the configured types and exclusions;
* `Command.run`: what each command does with a configuration;
* `Program.run`: the whole run. The configuration is loaded before any command, and without one no
  command runs.
-/

namespace PluginDiscovery

/-! ## 1. Surroundings and answers -/

/-- What the program finds when it starts: the files with the working directory, the variables, its
    ids, the time as the log writes it, and the dynamic loader of the platform. -/
structure Surroundings where
  files : FileSystem
  working : Path
  environment : Environment
  ids : Ids
  time : String
  platform : DynamicLoader

/-- What a command leaves: what it wrote for the user, the events it logged, how it failed if it
    did, and the files. -/
structure Result where
  written : String
  events : List Event
  failure : Option AppError
  files : FileSystem

/-- What the program leaves when it ends. -/
structure Answer where
  code : Nat
  stdout : String
  stderr : String
  files : FileSystem

namespace Result

/-- A command that succeeded without changing a file. -/
def ok (p : Surroundings) (written : String) (events : List Event) : Result :=
  ⟨written, events, none, p.files⟩

/-- A command that failed, and the files it left. -/
def failed (files : FileSystem) (e : AppError) : Result :=
  ⟨"", [], some e, files⟩

end Result

/-! ## 2. The engine as it is configured -/

/-- The settings of a context that opens shared libraries and reports to the log. -/
def PluginConfig.settings (c : PluginConfig) (platform : DynamicLoader) : Settings :=
  (Settings.initial (Native.loader platform) .log).build [.excludeNames c.exclude]

/-- A context with the configured types and exclusions. -/
def PluginConfig.engine (c : PluginConfig) (platform : DynamicLoader) : Context :=
  ((Context.fresh (c.settings platform)).registerEntries c.types).2

/-- Whether failures are reported: not if the user asks for silence. -/
def PluginConfig.mode (c : PluginConfig) (silent : Bool) : FailureMode :=
  if silent then .silent else .ofVerbose c.reportFailures

/-- The context after the discovery that is configured. -/
def PluginConfig.discover (c : PluginConfig) (p : Surroundings) (silent : Bool) : Context :=
  let (directories, ctx) :=
    (c.engine p.platform).discover p.files (c.layout p.environment) p.ids.privileged (c.mode silent)
  ctx.note (.discoveryFinished directories.length)

/-! ## 3. Listings -/

/-- The plugins that were found. -/
def Listing.ofPlugins (descriptions : List Description) : Listing where
  columns := [⟨"name", "Name"⟩, ⟨"version", "Version"⟩, ⟨"types", "Types"⟩, ⟨"path", "Path"⟩]
  rows := descriptions.map fun d => [.text d.name, .text d.version, .text d.types, .text d.path]

/-- The directories of a plan, in their order, and whether each exists. -/
def Listing.ofDirectories (fs : FileSystem) (directories : List Path) : Listing where
  columns := [⟨"order", "#"⟩, ⟨"path", "Directory"⟩, ⟨"exists", "Exists"⟩]
  rows := directories.mapIdx fun i d =>
    [.number (i + 1), .text d.shown, .truth (fs.isDirectory d)]

/-- What stands for the bit of a type that was refused. -/
def refusedBit : String := "-"

/-- The bit of a type among the registered ones, which is that of the first type of its name. -/
def TypeRegistry.shownBit (r : TypeRegistry) (name : String) : String :=
  match r.get? name with
  | some t => toString t.bit.toNat
  | none => refusedBit

/-- The configured types, and the bits they got. -/
def Listing.ofTypes (r : TypeRegistry) (entries : List TypeEntry) : Listing where
  columns := [⟨"bit", "Bit"⟩, ⟨"name", "Type"⟩, ⟨"symbol", "Symbol"⟩]
  rows := entries.map fun t => [.text (r.shownBit t.name), .text t.name, .text t.symbol]

/-! ## 4. The configuration for a reader -/

/-- A configured type as an outline. -/
def TypeEntry.outline (t : TypeEntry) : Outline :=
  .record "PluginTypeConfig" [("name", .text t.name), ("symbol", .text t.symbol)]

/-- The configuration as an outline. -/
def AppConfig.outline (c : AppConfig) : Outline :=
  let text? (s : Option String) : Outline := .optional (s.map .text)
  .record "AppConfig" [
    ("plugins", .record "PluginConfig" [
      ("directory", text? c.plugins.directory),
      ("build_layout", .truth c.plugins.buildLayout),
      ("build_output_subdir", .text c.plugins.buildOutput),
      ("version", text? c.plugins.version),
      ("personal_directory", text? c.plugins.personalDirectory),
      ("exclude", .list (c.plugins.exclude.map .text)),
      ("report_load_failures", .truth c.plugins.reportFailures),
      ("types", .list (c.plugins.types.map TypeEntry.outline))]),
    ("logging", .record "LoggingConfig" [
      ("level", .text c.logging.level), ("format", .text c.logging.format)])]

/-- A line that says that something went well. -/
def successLine (s : String) : String :=
  "✓ " ++ s ++ "\n"

/-- A line that says that something deserves attention. -/
def warningLine (s : String) : String :=
  "⚠ " ++ s ++ "\n"

/-- A line with a key, in a column of its own, and a value. -/
def pairLine (key value : String) : String :=
  let label := key ++ ":"
  "  " ++ label ++ String.ofList (List.replicate (24 - label.length) ' ') ++ " " ++ value ++ "\n"

/-- The summary of a valid configuration. -/
def AppConfig.summary (c : AppConfig) (file : String) : String :=
  successLine ("Configuration '" ++ file ++ "' is valid")
    ++ pairLine "Plugin directory" (c.plugins.directory.getD "(none)")
    ++ pairLine "Build layout" (toString c.plugins.buildLayout)
    ++ pairLine "Version" c.plugins.effectiveVersion
    ++ pairLine "Plugin types" (toString c.plugins.types.length)
    ++ pairLine "Excluded" (", ".intercalate c.plugins.exclude)

/-! ## 5. Commands -/

/-- What a table of directories is followed by. -/
def directoryWarnings (c : PluginConfig) (privileged : Bool) : String :=
  (if c.primary.isNone then
      warningLine "No plugin directory configured; discovery is disabled"
    else "")
    ++ (if privileged then
      warningLine "Running with elevated privileges; personal plugins are skipped"
    else "")

/-- Writes the file to start from, and makes the directories above it. -/
def writeTemplate (p : Surroundings) (output : String) : Result :=
  let path := Path.ofString output
  let internal (what : String) (cause : IoError) : AppError :=
    .plain .internal (what ++ cause.message)
  let prepared := match path.parent? with
    | some above => p.files.makeDirectories above
    | none => .ok p.files
  match prepared with
  | .error cause => .failed p.files (internal "Failed to create dir: " cause)
  | .ok files =>
    match files.write path (.bytes (Utf8.encode Template.text)) with
    | .error cause => .failed files (internal "Failed to write config: " cause)
    | .ok files =>
      ⟨successLine ("Default config written to '" ++ output ++ "'"), [], none, files⟩

/-- What a command does. -/
def Command.run (p : Surroundings) (i : Invocation) (c : AppConfig) : Result :=
  match i.command with
  | .list silent =>
    let ctx := c.plugins.discover p silent
    .ok p ((Listing.ofPlugins ctx.descriptions).write i.format) ctx.log
  | .dump silent =>
    let ctx := c.plugins.discover p silent
    .ok p ctx.dump ctx.log
  | .directories =>
    let (planned, events) := (c.plugins.layout p.environment).plan p.files p.ids.privileged
    let warnings := match i.format with
      | .table => directoryWarnings c.plugins p.ids.privileged
      | .json => ""
    .ok p ((Listing.ofDirectories p.files planned).write i.format ++ warnings) events
  | .types =>
    let ctx := c.plugins.engine p.platform
    .ok p ((Listing.ofTypes ctx.types c.plugins.types).write i.format) ctx.log
  | .showConfig =>
    let text := match i.format with
      | .table => c.outline.write
      | .json => c.toJson.pretty
    .ok p (text ++ "\n") []
  | .validateConfig => .ok p (c.summary i.config) []
  | .generateConfig output => writeTemplate p output

/-! ## 6. The whole run -/

namespace Program

/-- The name of the program. -/
def name : String := "plugscan"

/-- The version of the program. -/
def version : String := "0.1.0"

/-- The variable that a filter for the log is taken from before the configuration is asked. -/
def filterVariable : String := "RUST_LOG"

/-- What a user who asks for help is told. -/
def help : String :=
  String.join [
    "Usage: plugscan [OPTIONS] <COMMAND>\n\n",
    "Commands:\n",
    "  list      Discover plugins and list them\n",
    "  dump      Discover plugins and print a tab-separated dump\n",
    "  dirs      Show the directories discovery would scan\n",
    "  types     Show the configured plugin types\n",
    "  config    Configuration management: show, validate, generate\n",
    "  help      Print this message\n\n",
    "Options:\n",
    "  -c, --config <CONFIG>  Path to configuration file\n",
    "  -e, --env <ENV>        Environment overlay to apply\n",
    "  -f, --format <FORMAT>  Output format: table, json\n",
    "  -h, --help             Print help\n",
    "  -V, --version          Print version\n"]

/-- The filter for the log, and what is said about its defects: the one that the variable spells, or
    else what can be read of the configured level. -/
def filter (env : Environment) (c : LoggingConfig) : LogFilter × List String :=
  match (env.lookup filterVariable).bind LogFilter.strict? with
  | some f => (f, [])
  | none => LogFilter.lenient c.level

/-- The log of a command, and before it what is said about the filter. -/
def logText (p : Surroundings) (c : LoggingConfig) (events : List Event) : String :=
  let (f, complaints) := filter p.environment c
  String.join (complaints.map (· ++ "\n"))
    ++ String.join ((events.filter f.shows).map
      (LogLine.write (LogFormat.ofName c.format) p.time))

/-- The run of an invocation. -/
def invoke (p : Surroundings) (i : Invocation) : Answer :=
  match AppConfig.load p.files p.working p.environment i.config i.environment with
  | .error e => ⟨1, "", "Failed to load configuration: " ++ e.shown ++ "\n", p.files⟩
  | .ok c =>
    let result := Command.run p i c
    let log := logText p c.logging result.events
    match result.failure with
    | none => ⟨0, result.written, log, result.files⟩
    | some e => ⟨1, result.written, log ++ "Error: " ++ e.shown ++ "\n", result.files⟩

/-- The run of the program with the words of a command line. -/
def run (p : Surroundings) (words : List String) : Answer :=
  match Invocation.parse words with
  | .ok i => invoke p i
  | .error .help => ⟨0, help, "", p.files⟩
  | .error .version => ⟨0, name ++ " " ++ version ++ "\n", "", p.files⟩
  | .error (.mistake e) => ⟨2, "", "error: " ++ e.message ++ "\n", p.files⟩

end Program

end PluginDiscovery
