import PluginDiscovery.Config.Environment
import PluginDiscovery.Engine.Layout
import PluginDiscovery.Engine.TypeRegistry
import PluginDiscovery.Error.Application
import PluginDiscovery.Text.Blank

/-!
# The configuration

What a user can set: where plugins lie, which files are left out, which types there are, and how the
log is written. Every setting has a value that stands where none is given.

* `AppConfig`, with its sections `PluginConfig` and `LoggingConfig`;
* `AppConfig.validate`: the defects that no run can work with, the first of them;
* `PluginConfig.layout`: where plugins lie, for the engine;
* `AppConfig.toJson`: the configuration as data.
-/

namespace PluginDiscovery

/-! ## 1. Defaults of the single settings -/

namespace Default

/-- The base file where none is named. -/
def file : String := "config/default.toml"

/-- The environment where none is named. -/
def environment : String := "development"

/-- The primary directory where none is set. -/
def directory : Option String := some "./plugins"

/-- Whether plugins lie in a build tree where nothing is set. -/
def buildLayout : Bool := false

/-- The directory of built modules where none is set. -/
def buildOutput : String := ".libs"

/-- The version of the program, which names directories where no version is set. -/
def version : String := "0.1"

/-- Whether load failures are reported where nothing is set. -/
def reportFailures : Bool := true

/-- The plugin types where none are set. -/
def types : List TypeEntry :=
  [⟨"dissector", Abi.dissector⟩, ⟨"file type", Abi.fileType⟩, ⟨"codec", Abi.codec⟩]

/-- The level of the log where none is set. -/
def level : String := "info"

/-- The format of the log where none is set. -/
def format : String := "pretty"

end Default

/-! ## 2. Sections -/

/-- The settings for the discovery of plugins. -/
structure PluginConfig where
  directory : Option String
  buildLayout : Bool
  buildOutput : String
  version : Option String
  personalDirectory : Option String
  exclude : List String
  reportFailures : Bool
  types : List TypeEntry
  deriving DecidableEq, Repr

/-- The settings for the log. -/
structure LoggingConfig where
  level : String
  format : String
  deriving DecidableEq, Repr

/-- The configuration of the program. -/
structure AppConfig where
  plugins : PluginConfig
  logging : LoggingConfig
  deriving DecidableEq, Repr

/-- The section for plugins in which nothing is set. -/
def PluginConfig.standard : PluginConfig where
  directory := some "./plugins"
  buildLayout := false
  buildOutput := ".libs"
  version := none
  personalDirectory := none
  exclude := []
  reportFailures := true
  types := [⟨"dissector", "plugin_register"⟩, ⟨"file type", "register_wtap_module"⟩,
    ⟨"codec", "register_codec"⟩]

/-- The section for the log in which nothing is set. -/
def LoggingConfig.standard : LoggingConfig where
  level := "info"
  format := "pretty"

/-- The configuration in which nothing is set. -/
def AppConfig.standard : AppConfig :=
  ⟨.standard, .standard⟩

namespace PluginConfig

/-! ## 3. Where plugins lie -/

/-- The version that names directories. -/
def effectiveVersion (c : PluginConfig) : String :=
  c.version.getD Default.version

/-- The primary directory; an empty text is none. -/
def primary (c : PluginConfig) : Option Path :=
  (c.directory.filter fun d => !d.isEmpty).map Path.ofString

/-- The directory of the user: the one that is set, none if that is empty, and without a setting
    the one in the user's data directory. -/
def personal (c : PluginConfig) (env : Environment) : Option Path :=
  match c.personalDirectory with
  | some d => if d.isEmpty then none else some (Path.ofString d)
  | none =>
    env.dataDirectory?.map fun base =>
      ((base.join (Path.ofString Abi.applicationDirectory)).join (Path.ofString "plugins")).join
        (Path.ofString c.effectiveVersion)

/-- Where plugins lie. -/
def layout (c : PluginConfig) (env : Environment) : Layout where
  primary := c.primary
  buildTree := c.buildLayout
  buildOutput := Path.ofString c.buildOutput
  versioned := c.primary.map fun p => p.join (Path.ofString c.effectiveVersion)
  personal := c.personal env

end PluginConfig

/-! ## 4. Validation -/

/-- A defect that no run can work with. -/
inductive Defect where
  | emptyName (index : Nat)
  | emptySymbol (name : String)
  | unknownFormat (format : String)
  deriving DecidableEq, Repr

/-- The text of a defect. -/
def Defect.message : Defect → String
  | .emptyName index => "plugins.types[" ++ toString index ++ "] has an empty name"
  | .emptySymbol name => "plugin type '" ++ name ++ "' has an empty symbol"
  | .unknownFormat format => "logging.format must be 'json' or 'pretty', got '" ++ format ++ "'"

/-- The first defect of a list of types, whose first one has the given index. -/
def typeDefect? (index : Nat) : List TypeEntry → Option Defect
  | [] => none
  | t :: rest =>
    if Blank.isEmptyText t.name then some (.emptyName index)
    else if Blank.isEmptyText t.symbol then some (.emptySymbol t.name)
    else typeDefect? (index + 1) rest

namespace AppConfig

/-- The first defect of a configuration. -/
def defect? (c : AppConfig) : Option Defect :=
  (typeDefect? 0 c.plugins.types).or
    (if c.logging.format = "json" ∨ c.logging.format = "pretty" then none
     else some (.unknownFormat c.logging.format))

/-- Refuses a configuration with a defect. -/
def validate (c : AppConfig) : Except AppError Unit :=
  match c.defect? with
  | some d => .error (.plain .validation d.message)
  | none => .ok ()

end AppConfig

/-! ## 5. As data -/

/-- A configured type as data. -/
def TypeEntry.toJson (t : TypeEntry) : Json :=
  .object [("name", .text t.name), ("symbol", .text t.symbol)]

/-- The section for plugins as data. -/
def PluginConfig.toJson (c : PluginConfig) : Json :=
  .object [("directory", .ofText? c.directory), ("build_layout", .boolean c.buildLayout),
    ("build_output_subdir", .text c.buildOutput), ("version", .ofText? c.version),
    ("personal_directory", .ofText? c.personalDirectory), ("exclude", .ofTexts c.exclude),
    ("report_load_failures", .boolean c.reportFailures),
    ("types", .array (c.types.map TypeEntry.toJson))]

/-- The section for the log as data. -/
def LoggingConfig.toJson (c : LoggingConfig) : Json :=
  .object [("level", .text c.level), ("format", .text c.format)]

/-- The configuration as data. -/
def AppConfig.toJson (c : AppConfig) : Json :=
  .object [("plugins", c.plugins.toJson), ("logging", c.logging.toJson)]

end PluginDiscovery
