import PluginDiscovery.Engine.Context

/-!
# Scanning a directory

A scan goes through the entries of one directory in the order of their names. What an entry is to
the scan (`Settings.standing`) depends on its name and its own type alone; the file of a candidate is
opened (`Context.openFile`) and its module examined (`Context.examine`), and a module that passes
becomes a plugin (`Context.adopt`). Each refusal is logged, and reported when the mode asks for it,
and the scan goes on.
-/

namespace PluginDiscovery

/-- How many candidates of a scan were registered and how many refused. -/
structure ScanStats where
  registered : Nat
  rejected : Nat
  deriving DecidableEq, Repr

/-! ## 1. Entries -/

/-- What a directory entry is to a scan. -/
inductive Standing where
  /-- Its name is no text. -/
  | foreign (name : Bytes)
  /-- It is not a module file. -/
  | other
  /-- It is left out by the exclusion. -/
  | excluded (name : String)
  /-- It is to be examined. -/
  | candidate (name : String)
  deriving DecidableEq, Repr

/-- What follows the last dot of a name, if there is a dot. -/
def afterLastDot (name : List Char) : Option (List Char) :=
  if name.contains '.' then some (name.reverse.takeWhile (· ≠ '.')).reverse else none

namespace Settings

/-- Whether a name ends in the suffix of module files. -/
def hasSuffix (s : Settings) (name : String) : Bool :=
  afterLastDot name.toList == some s.suffix.toList

/-- What a directory entry is to a scan with these settings. -/
def standing (s : Settings) (e : FileSystem.Entry) : Standing :=
  match Utf8.decode? e.name with
  | none => .foreign e.name
  | some name =>
    if !s.hasSuffix name then .other
    else if e.isDirectory then .other
    else if s.excludes name then .excluded name
    else .candidate name

end Settings

/-- The entries of a directory in the byte order of their names. -/
def sortEntries (entries : List FileSystem.Entry) : List FileSystem.Entry :=
  entries.mergeSort fun a b => decide (a.name ≤ b.name)

namespace Context

/-! ## 2. Candidates -/

/-- Asks the loader for the module in a file. It is recorded that the loader was asked; a module that
    it gives is open. -/
def openFile (ctx : Context) (fs : FileSystem) (path : Path) : Except PluginError Module × Context :=
  let ctx := ctx.recordOpening path
  match ctx.settings.loader.load fs path with
  | .error reason => (.error (.loadFailed path reason), ctx)
  | .ok m => (.ok m, ctx.acquire path)

/-- Opens the file of a candidate and decides whether its module is a plugin. A module that is
    refused is closed again; a name that is taken is refused before the file is opened. -/
def examine (ctx : Context) (fs : FileSystem) (path : Path) (name : String) :
    Except PluginError Plugin × Context :=
  if ctx.plugins.has name then (.error (.duplicateName name), ctx)
  else
    match ctx.openFile fs path with
    | (.error e, ctx) => (.error e, ctx)
    | (.ok m, ctx) =>
      match m.text? Abi.version with
      | none => (.error (.missingVersion name), ctx.release [path])
      | some version =>
        let mask := ctx.types.classify m
        if mask.isEmpty then (.error (.noRoutines name), ctx.release [path])
        else (.ok ⟨m, name, version, mask⟩, ctx.note (.classified name (ctx.types.describe mask)))

/-- Adds a plugin to the registry; its module is closed if the registry refuses it. -/
def adopt (ctx : Context) (p : Plugin) : Except PluginError Unit × Context :=
  match ctx.plugins.append p with
  | .ok plugins =>
    (.ok (), { ctx with plugins := plugins }.note (.pluginRegistered p.name p.version p.path))
  | .error e => (.error e, ctx.release [p.path])

/-- The severity of the report on a refusal. -/
def severityOf : PluginError → Severity
  | .duplicateName _ => .warning
  | _ => .failure

/-- Logs a refusal, and reports it if the mode asks for it. -/
def reject (ctx : Context) (mode : FailureMode) (e : PluginError) : Context :=
  let ctx := ctx.note (.rejected e)
  if mode.isVerbose then ctx.report ⟨severityOf e, e.message⟩ else ctx

/-- Examines a candidate and, if it passes, registers it; tells whether it was registered. -/
def consider (ctx : Context) (fs : FileSystem) (mode : FailureMode) (path : Path)
    (name : String) : Bool × Context :=
  match ctx.examine fs path name with
  | (.error e, ctx) => (false, ctx.reject mode e)
  | (.ok p, ctx) =>
    match ctx.adopt p with
    | (.ok (), ctx) => (true, ctx)
    | (.error e, ctx) => (false, ctx.reject mode e)

/-! ## 3. Directories -/

/-- One entry of a scan: the counters and the context after it. -/
def scanEntry (fs : FileSystem) (mode : FailureMode) (directory : Path)
    (state : ScanStats × Context) (e : FileSystem.Entry) : ScanStats × Context :=
  let (stats, ctx) := state
  match ctx.settings.standing e with
  | .foreign name => (stats, ctx.note (.nameNotText name))
  | .other => (stats, ctx)
  | .excluded name => (stats, ctx.note (.excluded name))
  | .candidate name =>
    match ctx.consider fs mode (directory.join e.name) name with
    | (true, ctx) => ({ stats with registered := stats.registered + 1 }, ctx)
    | (false, ctx) => ({ stats with rejected := stats.rejected + 1 }, ctx)

/-- Registers every module of a directory that is a plugin. A path that leads to no directory is
    passed over, and so is a directory that cannot be listed. -/
def scan (ctx : Context) (fs : FileSystem) (directory : Path) (mode : FailureMode) :
    ScanStats × Context :=
  if !fs.isDirectory directory then (⟨0, 0⟩, ctx.note (.directoryAbsent directory))
  else
    match fs.list directory with
    | .error cause => (⟨0, 0⟩, ctx.note (.cannotRead directory cause))
    | .ok entries =>
      let (stats, ctx) :=
        (sortEntries entries).foldl (scanEntry fs mode directory) (⟨0, 0⟩, ctx)
      (stats, ctx.note (.directoryScanned directory stats.registered stats.rejected))

end Context

end PluginDiscovery
