import PluginDiscovery.Engine.Module
import PluginDiscovery.Engine.TypeMask
import PluginDiscovery.Error.Plugin

/-!
# Registered plugins

The plugins a host has accepted, in the order of their registration. A name is taken once; nothing
is ever taken out except everything at once.
-/

namespace PluginDiscovery

/-- A plugin: its opened module, its file name, its version and the types it satisfies. -/
structure Plugin where
  module : Module
  name : String
  version : String
  mask : TypeMask
  deriving DecidableEq, Repr

/-- The path a plugin was opened from. -/
def Plugin.path (p : Plugin) : Path :=
  p.module.path

/-- The registered plugins, in the order of their registration. -/
structure PluginRegistry where
  plugins : List Plugin
  deriving DecidableEq, Repr

namespace PluginRegistry

/-- The registry without a plugin. -/
def empty : PluginRegistry := ⟨[]⟩

/-- How many plugins are registered. -/
def size (r : PluginRegistry) : Nat :=
  r.plugins.length

/-- Whether no plugin is registered. -/
def isEmpty (r : PluginRegistry) : Bool :=
  r.plugins.isEmpty

/-- Whether a plugin of a name is registered. -/
def has (r : PluginRegistry) (name : String) : Bool :=
  r.plugins.any fun p => p.name = name

/-- The plugin of a name. -/
def get? (r : PluginRegistry) (name : String) : Option Plugin :=
  r.plugins.find? fun p => p.name = name

/-- The registry with one more plugin; a name that is taken is refused. -/
def append (r : PluginRegistry) (p : Plugin) : Except PluginError PluginRegistry :=
  if r.has p.name then .error (.duplicateName p.name) else .ok ⟨r.plugins ++ [p]⟩

end PluginRegistry

end PluginDiscovery
