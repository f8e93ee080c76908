import PluginDiscovery.Config.Decode
import PluginDiscovery.FileTree.Basic
import PluginDiscovery.Toml.Reader

/-!
# Loading the configuration

The configuration comes from a TOML text, from plain data, or from three sources: a base file, an
overlay beside it that is named for the environment the program runs in, and variables. Files may be
missing. Whatever the settings give is validated before anyone works with it.

* `AppConfig.ofToml`, `AppConfig.ofJson`: from a text and from data;
* `FileSource.find`: which file a name stands for, and in which format it is;
* `AppConfig.load`: from files and variables.
-/

namespace PluginDiscovery

/-! ## 1. Files -/

/-- The formats of configuration files. -/
inductive FileFormat where
  | toml
  | json
  deriving DecidableEq, Repr

namespace FileFormat

/-- Every format that is read. These are TOML and JSON only: files in other formats are not looked
    for. Where a name without an extension stands for files of both, the order of this list decides,
    which is fixed. -/
def all : List FileFormat := [.toml, .json]

/-- The extension of the files of a format. -/
def extension : FileFormat → Bytes
  | .toml => Path.ofString "toml"
  | .json => Path.ofString "json"

/-- The fields of a text in a format, if it is one. -/
def parse? (f : FileFormat) (text : String) : Option (List (String × Json)) :=
  match f with
  | .toml => Toml.parse? text
  | .json =>
    match Json.parse? text with
    | some (.object fields) => some fields
    | _ => none

end FileFormat

namespace FileSource

/-- The extension that a path with an extension gets, so that not its own one is replaced. -/
def placeholder : Bytes := Path.ofString ".placeholder"

/-- The file of a format that a path leads to: its file name with the extension of the format added.
    A path that has an extension gets the placeholder first, behind its whole text, so that behind a
    separator at its end the placeholder itself is the file name. -/
def candidate (file : Path) (f : FileFormat) : Path :=
  (if file.extension?.isSome then file ++ placeholder else file).withExtension f.extension

/-- The file a name stands for, as an absolute path, and its format: the file of that very name if
    there is one and its extension is that of a format, or else the first candidate of a format
    that is a file. -/
def find (fs : FileSystem) (working : Path) (name : Path) : Option (Path × FileFormat) :=
  let file := working.join name
  if fs.isFile file then
    (FileFormat.all.find? fun f => file.extension? == some f.extension).map fun f => (file, f)
  else
    FileFormat.all.findSome? fun f =>
      let path := candidate file f
      if fs.isFile path then some (path, f) else none

/-- The three bytes that mark a file as UTF-8. -/
def mark : Bytes := [0xEF, 0xBB, 0xBF]

/-- The text of a file: without the mark, and with invalid bytes replaced. -/
def textOf (data : Bytes) : String :=
  Utf8.lossy (if mark.isPrefixOf data then data.drop mark.length else data)

/-- The source that a name stands for. A file that is missing gives no settings, and a file that is
    no document of its format gives no source. -/
def read (fs : FileSystem) (working : Path) (name : Path) : Option Source :=
  match find fs working name with
  | none => some []
  | some (file, format) =>
    match fs.read file with
    | .ok (.bytes data) =>
      let origin := (file.relativeTo working).shown
      (format.parse? (textOf data)).map (Setting.ofFields (some origin))
    | .ok (.library _) => none
    | .error _ => some []

end FileSource

/-! ## 2. Configurations -/

namespace AppConfig

/-- The configuration, if it has no defect. -/
def checked (c : AppConfig) : Except AppError AppConfig :=
  c.validate.map fun _ => c

/-- The configuration of a TOML text. Its outermost keys are read as paths, and its settings have no
    origin. -/
def ofToml (text : String) : Except AppError AppConfig :=
  match Toml.parse? text with
  | none => .error (.ofConfiguration "")
  | some fields =>
    match Dialect.layered.config (Setting.ofSources [Setting.ofFields none fields]) with
    | .error e => .error (.ofConfiguration e.layered)
    | .ok c => c.checked

/-- The configuration of plain data. -/
def ofJson (j : Json) : Except AppError AppConfig :=
  match Dialect.strict.config (Setting.ofJson none j) with
  | .error e => .error (.ofSerialization e.strict)
  | .ok c => c.checked

/-- The file that stands beside the base file under the name of the environment. -/
def overlayPath (base env : String) : Path :=
  (Path.ofString base).withFileName (Path.ofString env)

/-- The sources of a configuration, the strongest one last, or nothing if a file is no document. -/
def sources? (fs : FileSystem) (working : Path) (vars : Environment) (base env : String) :
    Option (List Source) := do
  let first ← FileSource.read fs working (Path.ofString base)
  let second ← FileSource.read fs working (overlayPath base env)
  return [first, second, vars.source]

/-- The configuration of a base file, its overlay and the variables. -/
def load (fs : FileSystem) (working : Path) (vars : Environment) (base env : String) :
    Except AppError AppConfig :=
  match sources? fs working vars base env with
  | none => .error (.plain .configuration "Failed to build config: ")
  | some sources =>
    match Dialect.layered.config (Setting.ofSources sources) with
    | .error e =>
      .error (.plain .configuration ("Failed to deserialize config: " ++ e.layered))
    | .ok c => c.checked

end AppConfig

end PluginDiscovery
