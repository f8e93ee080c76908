import PluginDiscovery.Text.Utf8

/-!
# Shared libraries

What a shared library shows to a host that opens it: the names it exports, and for those that are
arrays of characters the bytes they hold.
-/

namespace PluginDiscovery

/-- A shared library: its exported names, with the bytes of the ones that are strings. -/
structure Library where
  exports : List (String × Option Bytes)
  deriving DecidableEq, Repr

end PluginDiscovery
