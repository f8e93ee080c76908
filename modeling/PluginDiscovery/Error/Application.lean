import PluginDiscovery.Error.Plugin

/-!
# Errors of the application

Every failure that reaches a user has a kind, a message and, where there is one, the text of what
caused it. The other errors of the library turn into these.
-/

namespace PluginDiscovery

/-- What an error of the application is about. -/
inductive ErrorKind where
  | notFound
  | validation
  | internal
  | storage
  | configuration
  | plugin
  | serialization
  deriving DecidableEq, Repr

namespace ErrorKind

/-- Every kind, in the order in which messages list them. -/
def all : List ErrorKind :=
  [.notFound, .validation, .internal, .storage, .configuration, .plugin, .serialization]

/-- The name of a kind in data. -/
def name : ErrorKind → String
  | .notFound => "NotFound"
  | .validation => "Validation"
  | .internal => "Internal"
  | .storage => "Storage"
  | .configuration => "Configuration"
  | .plugin => "Plugin"
  | .serialization => "Serialization"

/-- The name of a kind in messages. -/
def label : ErrorKind → String
  | .notFound => "NOT_FOUND"
  | .validation => "VALIDATION"
  | .internal => "INTERNAL"
  | .storage => "STORAGE"
  | .configuration => "CONFIGURATION"
  | .plugin => "PLUGIN"
  | .serialization => "SERIALIZATION"

/-- The kind with a given name in data. -/
def ofName? (s : String) : Option ErrorKind :=
  all.find? fun k => k.name = s

end ErrorKind

/-- An error of the application. -/
structure AppError where
  kind : ErrorKind
  message : String
  source : Option String
  deriving DecidableEq, Repr

namespace AppError

/-- An error without a cause. -/
def plain (kind : ErrorKind) (message : String) : AppError :=
  ⟨kind, message, none⟩

/-- An error with the text of its cause. -/
def withSource (kind : ErrorKind) (message source : String) : AppError :=
  ⟨kind, message, some source⟩

/-- The error as a user sees it: the kind, then the message. -/
def shown (e : AppError) : String :=
  e.kind.label ++ ": " ++ e.message

/-- The error without its cause, which cannot be duplicated. -/
def duplicate (e : AppError) : AppError :=
  { e with source := none }

/-- A failed input or output operation. -/
def ofIo (cause : IoError) : AppError :=
  withSource .storage ("I/O error: " ++ cause.message) cause.message

/-- A configuration text that could not be read. -/
def ofConfiguration (cause : String) : AppError :=
  withSource .configuration ("Configuration error: " ++ cause) cause

/-- Data that could not be read as what it should be. -/
def ofSerialization (cause : String) : AppError :=
  withSource .serialization ("JSON serialization error: " ++ cause) cause

/-- A refused plugin or plugin type. -/
def ofPlugin : PluginError → AppError
  | .io cause => ofIo cause
  | e => plain .plugin e.message

end AppError

end PluginDiscovery
