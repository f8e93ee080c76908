import PluginDiscovery.FileTree.Path
import PluginDiscovery.OsError

/-!
# Why a plugin or a plugin type is refused

None of these ends a discovery: each is the fate of one candidate file or of one type.
-/

namespace PluginDiscovery

/-- The cause of a refusal. -/
inductive PluginError where
  /-- The loader could not open the file. -/
  | loadFailed (path : Path) (reason : String)
  /-- The module exports no version string. -/
  | missingVersion (name : String)
  /-- No registered type accepts the module. -/
  | noRoutines (name : String)
  /-- A plugin of that name is registered already. -/
  | duplicateName (name : String)
  /-- There are as many types as a mask has bits. -/
  | typeLimit (name : String) (limit : Nat)
  /-- An input or output operation failed. -/
  | io (cause : IoError)
  deriving DecidableEq, Repr

/-- The text of a refusal. -/
def PluginError.message : PluginError → String
  | .loadFailed path reason => "Couldn't load module " ++ path.shown ++ ": " ++ reason
  | .missingVersion name => "The plugin " ++ name ++ " has no version symbol"
  | .noRoutines name => "The plugin '" ++ name ++ "' has no registration routines"
  | .duplicateName name => "The plugin '" ++ name ++ "' was found in multiple directories."
  | .typeLimit name limit =>
    "At most " ++ toString limit ++ " plugin types can be supported, so the plugin type '" ++ name
      ++ "' won't be supported."
  | .io cause => "IO error: " ++ cause.message

end PluginDiscovery
