import PluginDiscovery.FileTree.Basic
import PluginDiscovery.Engine.Event

/-!
# Which directories are scanned

A layout tells where plugins may lie: in a primary directory, in a directory of it for the running
version, in the subdirectories of a build tree, and in a directory of the user. From a layout and
the file system follows the plan, the list of directories a discovery scans, in their order.

* `Ids.privileged`: whether a process started with special privileges, and then plugins of the user
  are left alone;
* `Layout.plan`: the plan, together with the events that its making logs.
-/

namespace PluginDiscovery

/-! ## 1. Privileges -/

/-- The real and effective ids of a process and its group. -/
structure Ids where
  realUser : UInt32
  effectiveUser : UInt32
  realGroup : UInt32
  effectiveGroup : UInt32
  deriving DecidableEq, Repr

/-- Whether the process runs, or was started to run, with the privileges of another user or of the
    superuser. -/
def Ids.privileged (ids : Ids) : Bool :=
  ids.realUser != ids.effectiveUser || ids.realGroup != ids.effectiveGroup
    || ids.realUser == 0 || ids.realGroup == 0

/-! ## 2. Layouts -/

/-- Where plugins may lie. Without a primary directory nothing is scanned. -/
structure Layout where
  primary : Option Path
  buildTree : Bool
  buildOutput : Path
  versioned : Option Path
  personal : Option Path
  deriving DecidableEq, Repr

namespace Layout

/-- The name of the directory that holds built modules unless a layout says otherwise. -/
def defaultBuildOutput : Path := Path.ofString ".libs"

/-! ## 3. The plan -/

/-- The personal directory as a list of directories: none for a privileged process. -/
def personalOnly (layout : Layout) (privileged : Bool) : List Path × List Event :=
  if privileged then ([], [.personalSkipped]) else (layout.personal.toList, [])

/-- The subdirectories among the entries of a directory, in the order of paths. -/
def subdirectories (fs : FileSystem) (directory : Path) (entries : List FileSystem.Entry) :
    List Path :=
  ((entries.map fun e => directory.join e.name).filter fs.isDirectory).mergeSort Path.le

/-- The directory of built modules in a subdirectory if there is one, or else the subdirectory. -/
def builtIn (fs : FileSystem) (buildOutput subdirectory : Path) : Path :=
  let nested := subdirectory.join buildOutput
  if fs.isDirectory nested then nested else subdirectory

/-- The directories a discovery scans, in scan order, and what making the list logs. -/
def plan (layout : Layout) (fs : FileSystem) (privileged : Bool) : List Path × List Event :=
  match layout.primary with
  | none => ([], [.noDirectory])
  | some primary =>
    let (own, ownEvents) := layout.personalOnly privileged
    if layout.buildTree then
      match fs.list primary with
      | .error cause => (own, .cannotList primary cause :: ownEvents)
      | .ok entries =>
        let built := (subdirectories fs primary entries).map (builtIn fs layout.buildOutput)
        (primary :: built ++ own, ownEvents)
    else (layout.versioned.toList ++ own, ownEvents)

end Layout

end PluginDiscovery
