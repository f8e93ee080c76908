import PluginDiscovery.Engine.Layout
import PluginDiscovery.Engine.PluginRegistry
import PluginDiscovery.Engine.TypeRegistry

/-!
# The context of a discovery

One value owns all that a discovery works on. Its settings are fixed when it is built; what it knows
are the registered types and plugins and whether a discovery has run; and it keeps the ledgers that
answers are taken from: the files it asked its loader to open, the modules that were opened and
closed, the reports and the log.

* `Settings.build`: settings from the calls of a builder, each of which changes one thing;
* `Context.fresh`: a new context;
* `Context.live`: how many modules are open, as a loader that counts them tells it;
* `registerType`, `registerEntries`, `cleanup`: what changes the registered types, and the way back
  to an empty context.
-/

namespace PluginDiscovery

/-! ## 1. Settings -/

/-- What a context is built with: the suffix of module files, the file names to leave out, the
    loader and the place for reports. -/
structure Settings where
  suffix : String
  exclusion : Option (String → Bool)
  loader : Loader
  reporter : Reporter

/-- A call of the builder. -/
inductive BuilderCall where
  | suffix (given : String)
  | exclude (test : String → Bool)
  | excludeNames (names : List String)

namespace Settings

/-- The suffix of shared libraries. -/
def librarySuffix : String := "so"

/-- The settings before any call of the builder. -/
def initial (loader : Loader) (reporter : Reporter) : Settings :=
  ⟨librarySuffix, none, loader, reporter⟩

/-- A suffix without the dots it begins with. -/
def bareSuffix (given : String) : String :=
  String.ofList (given.toList.dropWhile (· = '.'))

/-- The settings after a call of the builder. An empty list of names changes nothing; any other
    exclusion takes the place of the one before. -/
def apply (s : Settings) : BuilderCall → Settings
  | .suffix given => { s with suffix := bareSuffix given }
  | .exclude test => { s with exclusion := some test }
  | .excludeNames names =>
    if names.isEmpty then s else { s with exclusion := some fun name => names.contains name }

/-- The settings after a list of builder calls. -/
def build (s : Settings) (calls : List BuilderCall) : Settings :=
  calls.foldl apply s

/-- Whether a file name is left out. -/
def excludes (s : Settings) (name : String) : Bool :=
  match s.exclusion with
  | some test => test name
  | none => false

end Settings

/-! ## 2. Contexts -/

/-- What happens to the handle of a module: it is opened from a path, and closed again. -/
inductive HandleMove where
  | opened (path : Path)
  | closed (path : Path)
  deriving DecidableEq, Repr

/-- By how much a move changes the number of open modules. -/
def HandleMove.change : HandleMove → Int
  | .opened _ => 1
  | .closed _ => -1

/-- By how much moves change the number of open modules. -/
def HandleMove.net : List HandleMove → Int
  | [] => 0
  | move :: rest => move.change + net rest

/-- All that a discovery works on. -/
structure Context where
  settings : Settings
  types : TypeRegistry
  plugins : PluginRegistry
  discovered : Bool
  opened : List Path
  handles : List HandleMove
  reports : List Report
  log : List Event

namespace Context

/-- A context in which nothing has happened. -/
def fresh (settings : Settings) : Context :=
  ⟨settings, .empty, .empty, false, [], [], [], []⟩

/-- The context with an event at the end of its log. -/
def note (ctx : Context) (event : Event) : Context :=
  { ctx with log := ctx.log ++ [event] }

/-- The context with events at the end of its log. -/
def noteAll (ctx : Context) (events : List Event) : Context :=
  { ctx with log := ctx.log ++ events }

/-- The context after a report, which the host or the log gets. -/
def report (ctx : Context) (r : Report) : Context :=
  match ctx.settings.reporter with
  | .memory => { ctx with reports := ctx.reports ++ [r] }
  | .log => ctx.note (.reported r)

/-- The context after the loader was asked to open a file. -/
def recordOpening (ctx : Context) (path : Path) : Context :=
  if ctx.settings.loader.counts then { ctx with opened := ctx.opened ++ [path] } else ctx

/-- The context after a module was opened. -/
def acquire (ctx : Context) (path : Path) : Context :=
  let ctx := { ctx with handles := ctx.handles ++ [HandleMove.opened path] }
  if ctx.settings.loader.announces then ctx.note (.moduleOpened path) else ctx

/-- The context after the modules opened from these paths were closed, one after the other. -/
def release (ctx : Context) (paths : List Path) : Context :=
  { ctx with handles := ctx.handles ++ paths.map HandleMove.closed }

/-- How many modules are open, as the loader tells it; one that does not count tells nothing. -/
def live (ctx : Context) : Int :=
  if ctx.settings.loader.counts then HandleMove.net ctx.handles else 0

/-! ## 3. Types -/

/-- Registers a type. A refusal is reported as a failure, and returned. -/
def registerType (ctx : Context) (name : String) (accepts : Module → Bool) :
    Except PluginError UInt8 × Context :=
  match ctx.types.register name accepts with
  | .ok (bit, types) => (.ok bit, { ctx with types := types }.note (.typeRegistered name bit))
  | .error e => (.error e, ctx.report ⟨.failure, e.message⟩)

/-- Registers configured types, each with the test for its symbol, and counts the accepted ones. -/
def registerEntries (ctx : Context) : List TypeEntry → Nat × Context
  | [] => (0, ctx)
  | entry :: rest =>
    match ctx.registerType entry.name (PluginType.requiresSymbol entry.symbol) with
    | (.ok _, ctx) =>
      let (accepted, ctx) := registerEntries ctx rest
      (accepted + 1, ctx)
    | (.error _, ctx) => registerEntries ctx rest

/-! ## 4. The end -/

/-- Releases every plugin with its module, and every type. -/
def cleanup (ctx : Context) : Context :=
  let closing := ctx.plugins.plugins.map Plugin.path
  { (ctx.release closing).note (.registryCleared ctx.plugins.size) with
    types := .empty, plugins := .empty, discovered := false }

/-- The context as diagnostics show it. -/
def shown (ctx : Context) : String :=
  "PluginContext \x7b types: " ++ toString ctx.types.size
    ++ ", plugins: " ++ toString ctx.plugins.size
    ++ ", module_suffix: " ++ Quoted.text ctx.settings.suffix
    ++ ", discovered: " ++ toString ctx.discovered ++ ", .. \x7d"

end Context

end PluginDiscovery
