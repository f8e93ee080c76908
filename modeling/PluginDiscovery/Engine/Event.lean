import PluginDiscovery.Error.Plugin
import PluginDiscovery.Engine.Report
import PluginDiscovery.Text.Quoted

/-!
# The log

What the engine writes to its log, as values. An event has a level, a target (the part of the
program it comes from), a message and named fields; `Event` lists what can happen and the functions
below say how each of them is written.
-/

namespace PluginDiscovery

/-- How important an event is, the most important first. -/
inductive Level where
  | error
  | warn
  | info
  | debug
  | trace
  deriving DecidableEq, Repr

namespace Level

/-- The name of a level. -/
def name : Level → String
  | .error => "ERROR"
  | .warn => "WARN"
  | .info => "INFO"
  | .debug => "DEBUG"
  | .trace => "TRACE"

/-- How much a log shows that shows this level: one for errors alone, five for everything. -/
def verbosity : Level → Nat
  | .error => 1
  | .warn => 2
  | .info => 3
  | .debug => 4
  | .trace => 5

end Level

/-- The value of a field. -/
inductive FieldValue where
  | text (s : String)
  | number (n : Nat)
  deriving DecidableEq, Repr

/-- The text of a value. -/
def FieldValue.shown : FieldValue → String
  | .text s => s
  | .number n => toString n

/-- Something worth noting in the log. -/
inductive Event where
  | typeRegistered (name : String) (bit : UInt8)
  | pluginRegistered (name version : String) (path : Path)
  | registryCleared (count : Nat)
  | directoryAbsent (directory : Path)
  | cannotRead (directory : Path) (cause : IoError)
  | nameNotText (name : Bytes)
  | excluded (name : String)
  | classified (name types : String)
  | rejected (cause : PluginError)
  | directoryScanned (directory : Path) (accepted refused : Nat)
  | noDirectory
  | cannotList (directory : Path) (cause : IoError)
  | personalSkipped
  | alreadyRan
  | discoveryComplete (directories plugins types : Nat)
  | moduleOpened (path : Path)
  | reported (report : Report)
  | discoveryFinished (directories : Nat)
  deriving DecidableEq, Repr

namespace Event

/-- The level of an event. -/
def level : Event → Level
  | .pluginRegistered .. | .registryCleared .. | .discoveryComplete .. => .info
  | .reported ⟨.warning, _⟩ => .warn
  | .reported ⟨.failure, _⟩ => .error
  | _ => .debug

/-- The part of the program an event comes from. -/
def target : Event → String
  | .typeRegistered .. => "plugscan_plugin::context"
  | .pluginRegistered .. | .registryCleared .. => "plugscan_plugin::registry"
  | .directoryAbsent .. | .cannotRead .. | .nameNotText .. | .excluded .. | .classified ..
  | .rejected .. | .directoryScanned .. => "plugscan_plugin::scanner"
  | .noDirectory | .cannotList .. | .personalSkipped | .alreadyRan | .discoveryComplete .. =>
    "plugscan_plugin::discovery"
  | .moduleOpened .. => "plugscan_plugin::loader"
  | .reported .. => "plugscan::report"
  | .discoveryFinished .. => "plugscan::commands"

/-- The message of an event. -/
def message : Event → String
  | .typeRegistered .. => "Plugin type registered"
  | .pluginRegistered .. => "Plugin registered"
  | .registryCleared .. => "Plugin registry cleared"
  | .directoryAbsent .. => "Plugin directory absent, skipping"
  | .cannotRead .. => "Failed to read plugin directory"
  | .nameNotText .. => "Skipping non UTF-8 file name"
  | .excluded .. => "Plugin excluded by filter"
  | .classified .. => "Plugin classified"
  | .rejected .. => "Plugin candidate rejected"
  | .directoryScanned .. => "Plugin directory scanned"
  | .noDirectory => "No plugin directory configured"
  | .cannotList .. => "Cannot list build plugin directory"
  | .personalSkipped => "Started with special privileges, skipping personal plugin directory"
  | .alreadyRan => "Plugin discovery already ran"
  | .discoveryComplete .. => "Plugin discovery complete"
  | .moduleOpened .. => "Native module opened"
  | .reported report => report.message
  | .discoveryFinished .. => "Discovery finished"

/-- The fields of an event, in the order in which they are written. -/
def fields : Event → List (String × FieldValue)
  | .typeRegistered name bit => [("plugin_type", .text name), ("bit_index", .number bit.toNat)]
  | .pluginRegistered name version path =>
    [("plugin", .text name), ("version", .text version), ("path", .text path.shown)]
  | .registryCleared count => [("count", .number count)]
  | .directoryAbsent directory => [("dir", .text directory.shown)]
  | .nameNotText name => [("entry", .text (Quoted.bytes name))]
  | .excluded name => [("plugin", .text name)]
  | .classified name types => [("plugin", .text name), ("types", .text types)]
  | .rejected cause => [("reason", .text cause.message)]
  | .directoryScanned directory accepted refused =>
    [("dir", .text directory.shown), ("registered", .number accepted),
     ("rejected", .number refused)]
  | .cannotRead directory cause | .cannotList directory cause =>
    [("dir", .text directory.shown), ("error", .text cause.message)]
  | .discoveryComplete directories plugins types =>
    [("directories", .number directories), ("plugins", .number plugins), ("types", .number types)]
  | .moduleOpened path => [("path", .text path.shown)]
  | .discoveryFinished directories => [("directories", .number directories)]
  | .noDirectory | .personalSkipped | .alreadyRan | .reported _ => []

end Event

end PluginDiscovery
