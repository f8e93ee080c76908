import PluginDiscovery.Abi
import PluginDiscovery.FileTree.Basic

/-!
# Modules

An opened module: where it was opened from and what it exports. A host asks it two questions,
whether it exports a name and which text it exports under a name.
-/

namespace PluginDiscovery

/-- An opened module. A name that is listed twice is exported as it is listed first. -/
structure Module where
  path : Path
  symbols : List (String × Option String)
  deriving DecidableEq, Repr

namespace Module

/-- A module that exports nothing. -/
def empty (path : Path) : Module :=
  ⟨path, []⟩

/-- The module with one more symbol, which hides an older one of the same name. -/
def withExport (m : Module) (name : String) (text : Option String) : Module :=
  { m with symbols := (name, text) :: m.symbols }

/-- Whether the module exports a name. -/
def exports (m : Module) (name : String) : Bool :=
  (m.symbols.lookup name).isSome

/-- The text the module exports under a name. -/
def text? (m : Module) (name : String) : Option String :=
  (m.symbols.lookup name).join

/-- The module of a shared library. It is asked for names as strings in memory, so that a name with a
    zero in it is not found, and its strings are read as memory, up to the first zero. -/
def ofLibrary (path : Path) (library : Library) : Module :=
  ⟨path, library.exports.filterMap fun (name, bytes) =>
    (Abi.symbolName? name).map fun _ => (name, Abi.cString? bytes)⟩

end Module

/-- What opens files as modules. `load` gives the module in a file, or the reason why there is
    none, and a module knows the path it was opened from; `counts` tells whether opened files and
    open modules are counted, and `announces` whether an opened module is logged.

    The type of `load` is an assumption: what opens depends on the files and the path, and neither on
    what was opened before nor on what is still open. Whatever is said about every loader is said
    under it. -/
structure Loader where
  load : FileSystem → Path → Except String Module
  counts : Bool
  announces : Bool
  path_of_load : ∀ {fs : FileSystem} {p : Path} {m : Module}, load fs p = .ok m → m.path = p

end PluginDiscovery
