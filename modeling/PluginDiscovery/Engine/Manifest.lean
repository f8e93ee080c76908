import PluginDiscovery.Engine.Module
import PluginDiscovery.FileTree.Edit
import PluginDiscovery.Text.Blank
import PluginDiscovery.Text.KeyValue
import PluginDiscovery.Text.Lines

/-!
# Modules described by manifest files

A manifest is a small text file that stands for a module, a line for each thing to know:

    version=1.0
    symbol=plugin_register
    fail=bad ELF header

A line is trimmed of white space, a carriage return at its end included, and split at its first
equals sign; a line without one, or with another key, says nothing. Lines are read from the top:
`version` and `symbol` add an export that hides an older one of the same name, and the first `fail`
ends the reading with its value as the reason.
-/

namespace PluginDiscovery.Manifest

/-! ## 1. Entries -/

/-- What a line of a manifest says. -/
inductive Entry where
  | fail (reason : String)
  | version (value : String)
  | symbol (name : String)
  deriving DecidableEq, Repr

/-- What a line says, if anything. -/
def Entry.ofLine? (line : List Char) : Option Entry :=
  match KeyValue.split? (Blank.trimChars line) with
  | none => none
  | some (key, value) =>
    if key = "fail".toList then some (.fail (String.ofList value))
    else if key = "version".toList then some (.version (String.ofList value))
    else if key = "symbol".toList then some (.symbol (String.ofList value))
    else none

/-- The entries of a manifest, in the order of its lines. -/
def entries (text : String) : List Entry :=
  (Lines.split text.toList).filterMap Entry.ofLine?

/-- A module with the exports of the entries added, or the reason of the first failure. -/
def extend : Module → List Entry → Except String Module
  | m, [] => .ok m
  | _, .fail reason :: _ => .error reason
  | m, .version value :: rest => extend (m.withExport Abi.version (some value)) rest
  | m, .symbol name :: rest => extend (m.withExport name (some "")) rest

/-- Entries add exports and leave the path alone. -/
theorem extend_path {m m' : Module} {es : List Entry} (h : extend m es = .ok m') :
    m'.path = m.path := by
  fun_induction extend m es with
  | case1 m =>
    cases h
    rfl
  | case2 m reason rest => cases h
  | case3 m value rest ih => exact ih h
  | case4 m name rest ih => exact ih h

/-- The module that a manifest text describes. -/
def ofText (path : Path) (text : String) : Except String Module :=
  extend (Module.empty path) (entries text)

/-! ## 2. Loading -/

/-- The module that the manifest file at a path describes. -/
def load (fs : FileSystem) (path : Path) : Except String Module :=
  match fs.readText path with
  | .error e => .error e.message
  | .ok text => ofText path text

/-- The module of a manifest file has the path of the file. -/
theorem path_of_load {fs : FileSystem} {p : Path} {m : Module} (h : load fs p = .ok m) :
    m.path = p := by
  unfold load at h
  split at h
  · cases h
  · exact extend_path h

/-- The loader of manifest files. It counts what it opens. -/
def loader : Loader :=
  ⟨load, true, false, path_of_load⟩

/-- The content of a manifest with the given lines. -/
def ofLines (texts : List String) : Content :=
  .bytes (Utf8.encode ("\n".intercalate texts))

/-- The tree with a manifest of the given lines in a directory, and the path of the manifest. -/
def write (fs : FileSystem) (directory : Path) (name : String) (texts : List String) :
    Except IoError (FileSystem × Path) := do
  let path := directory.join (Path.ofString name)
  let written ← fs.write path (ofLines texts)
  .ok (written, path)

end PluginDiscovery.Manifest
