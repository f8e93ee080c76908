import PluginDiscovery.Cli.Program
import PluginDiscovery.SharedObject
import Std.Time.Format

/-!
# The executable

The outer layer around `Program.run`. It takes a picture of those files that a run can come to see,
of the variables and of the ids, lets the program work on the picture, and then writes what the
program wrote. It decides nothing about plugins or the configuration.

Nothing is executed here, so there is no dynamic loader either: `pictureLoader` stands in for that of
the platform. It takes a library for what its own table of symbols tells. The libraries that it
depends on are not looked for and its routines are not run, and what is no library is refused with
one text.
-/

namespace PluginDiscovery.Executable

/-! ## 1. The process -/

/-- The variables the process was started with. -/
def environment : IO Environment := do
  let bytes ← IO.FS.readBinFile "/proc/self/environ"
  let texts := (Utf8.lossy bytes.toList).splitOn "\x00"
  return texts.filterMap fun entry =>
    (KeyValue.split? entry.toList).map fun (name, value) =>
      (String.ofList name, String.ofList value)

/-- The real and the effective id in a line of the process's status. -/
def idsOf (status key : String) : UInt32 × UInt32 :=
  let fields := (status.splitOn "\n").filterMap fun line =>
    match line.splitOn "\t" with
    | name :: real :: effective :: _ => if name = key ++ ":" then some (real, effective) else none
    | _ => none
  match fields with
  | (real, effective) :: _ => ((real.toNat?.getD 0).toUInt32, (effective.toNat?.getD 0).toUInt32)
  | [] => (0, 0)

/-- The ids of the process. -/
def ids : IO Ids := do
  let status ← IO.FS.readFile "/proc/self/status"
  let (realUser, effectiveUser) := idsOf status "Uid"
  let (realGroup, effectiveGroup) := idsOf status "Gid"
  return { realUser, effectiveUser, realGroup, effectiveGroup }

/-- The time as the log writes it. -/
def time : IO String := do
  let now ← Std.Time.Timestamp.now
  return (Std.Time.DateTime.ofTimestamp now .UTC).format "uuuu-MM-dd'T'HH:mm:ss.SSSSSS'Z'"

/-! ## 2. The picture of the files -/

/-- The content of a file. -/
def contentOf (path : String) : IO Content := do
  let bytes ← IO.FS.readBinFile path
  match Library.ofImage? ⟨bytes⟩ with
  | some library => return .library library
  | none => return .bytes bytes.toList

/-- What was found at a path: the node with what lies below it, where its links lead, and the paths
    of the directories in it without the permission to list them. -/
structure Found where
  node : Node
  targets : List String
  unlistable : List Path

/-- The node at an absolute path, with what lies below it down to a depth. A link that leads nowhere
    is one without a target. -/
partial def nodeAt (depth : Nat) (path : String) : IO Found := do
  let file := (← IO.currentDir) / path
  match (← file.symlinkMetadata).type with
  | .symlink =>
    try
      let target := (← IO.FS.realPath path).toString
      return ⟨.link (Path.ofString target), [target], []⟩
    catch _ => return ⟨.link [], [], []⟩
  | .dir =>
    if depth = 0 then return ⟨.directory [], [], []⟩
    match ← (try some <$> file.readDir catch _ => pure none) with
    | none => return ⟨.directory [], [], [Path.ofString path]⟩
    | some listed =>
      let mut entries := []
      let mut targets := []
      let mut unlistable := []
      for entry in listed do
        let found ← try some <$> nodeAt (depth - 1) (file / entry.fileName).toString
          catch _ => pure none
        match found with
        | some below =>
          entries := (Path.ofString entry.fileName, below.node) :: entries
          targets := below.targets ++ targets
          unlistable := below.unlistable ++ unlistable
        | none => pure ()
      return ⟨.directory entries, targets, unlistable⟩
  | .file => return ⟨.file (← contentOf path), [], []⟩
  | .other => return ⟨.file (.bytes []), [], []⟩

/-- Two pictures of one node together. Each of the `depth` steps goes one directory down. -/
def merged : Nat → Node → Node → Node
  | depth + 1, .directory old, .directory new =>
    .directory (new.foldl (fun entries (name, node) =>
      let both := ((entries.lookup name).map fun known => merged depth known node).getD node
      Node.setEntry name both entries) old)
  | _, _, node => node

/-- The names in a path. -/
def namesIn (path : Path) : List Bytes :=
  (Path.pieces path).filter (· ≠ [])

/-- How deep a picture is at most below the place where it was taken. -/
def maxDepth : Nat := 8

/-- The picture with a node put at a path; what is known already about the path is kept. -/
def putAt (fs : FileSystem) (path : Path) (node : Node) : FileSystem :=
  let prepared := ((path.parent?.map fs.makeDirectories).getD (.ok fs)).toOption.getD fs
  match prepared.holder path with
  | .ok (here, name) =>
    let known := (here.node.entries.lookup name).getD node
    prepared.put here
      (.directory (Node.setEntry name (merged maxDepth known node) here.node.entries))
  | .error _ => prepared

/-- The picture with what really lies at an absolute path. Links are followed a few times. -/
partial def takeIn (links depth : Nat) (fs : FileSystem) (path : String) : IO FileSystem := do
  try
    let real := (← IO.FS.realPath path).toString
    let found ← nodeAt depth real
    let fs := putAt fs (Path.ofString real) found.node
    let fs := { fs with unlistable := found.unlistable.map namesIn ++ fs.unlistable }
    let fs := if real = path || fs.isDirectory (Path.ofString path) then fs
      else putAt fs (Path.ofString path) (.link (Path.ofString real))
    if links = 0 then return fs
    found.targets.foldlM (takeIn (links - 1) 1) fs
  catch _ => return fs

/-- The stand-in for the dynamic loader. A path without a separator is the name of a library of the
    system, which no plugin is; and the empty path is the program itself, which exports nothing. -/
def pictureLoader : DynamicLoader where
  opens fs path :=
    if path.isEmpty then .ok ⟨[]⟩
    else if !path.contains Path.slash then .error "dlopen failed"
    else
      match fs.read path with
      | .ok (.library library) => .ok library
      | _ => .error "dlopen failed"

/-- A path as an absolute one. -/
def absolute (working : Path) (path : Path) : String :=
  (working.join path).shown

/-- The picture with the directories that hold a file of the configuration. -/
def takeInHolders (working : Path) (fs : FileSystem) (files : List Path) : IO FileSystem :=
  (files.filterMap Path.parent?).foldlM (fun fs d => takeIn 2 1 fs (absolute working d)) fs

/-- The picture with the directories of a layout. -/
def takeInLayout (working : Path) (fs : FileSystem) (layout : Layout) : IO FileSystem := do
  let fs ← (layout.primary.toList).foldlM (fun fs d => takeIn 2 3 fs (absolute working d)) fs
  (layout.versioned.toList ++ layout.personal.toList).foldlM
    (fun fs d => takeIn 2 1 fs (absolute working d)) fs

/-- The surroundings of a run, with the files that an invocation can come to see. -/
def surroundings (words : List String) : IO Surroundings := do
  let working := Path.ofString (← IO.currentDir).toString
  let env ← environment
  let names := namesIn working
  let tree := names.foldr (fun name node => Node.directory [(name, node)]) (.directory [])
  let bare : Surroundings := ⟨⟨tree, names, []⟩, working, env, ← ids, ← time, pictureLoader⟩
  match Invocation.parse words with
  | .error _ => return bare
  | .ok i =>
    let base := Path.ofString i.config
    let files ← takeInHolders working bare.files
      [base, AppConfig.overlayPath i.config i.environment]
    let files ← match i.command with
      | .generateConfig output => takeInHolders working files [Path.ofString output]
      | _ => pure files
    match AppConfig.load files working env i.config i.environment with
    | .error _ => return { bare with files }
    | .ok c => return { bare with files := ← takeInLayout working files (c.plugins.layout env) }

/-! ## 3. The run -/

/-- Carries out what a successful run did to the files. -/
def carryOut (words : List String) : IO Unit := do
  match Invocation.parse words with
  | .ok { command := .generateConfig output, .. } =>
    match (Path.ofString output).parent? with
    | some above => unless above.isEmpty do IO.FS.createDirAll above.shown
    | none => pure ()
    IO.FS.writeFile output Template.text
  | _ => pure ()

/-- Runs the program and gives the code the process ends with. -/
def run (words : List String) : IO UInt32 := do
  let answer := Program.run (← surroundings words) words
  if answer.code = 0 then carryOut words
  (← IO.getStdout).putStr answer.stdout
  (← IO.getStderr).putStr answer.stderr
  return answer.code.toUInt32

end PluginDiscovery.Executable

/-- Runs the program with the words of the command line. -/
def main (words : List String) : IO UInt32 :=
  PluginDiscovery.Executable.run words
