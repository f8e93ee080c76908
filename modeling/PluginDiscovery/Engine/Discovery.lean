import PluginDiscovery.Engine.Scan

/-!
# Discovery

A discovery scans the directories of a plan, one after the other. It runs once: a context in which a
discovery has run, or that holds a plugin already, is left as it is until it is cleaned up. An empty
plan does not count as a run.
-/

namespace PluginDiscovery.Context

/-- Scans directories in order: how many plugins were registered, and the context after it. -/
def scanAll (ctx : Context) (fs : FileSystem) (mode : FailureMode) : List Path → Nat × Context
  | [] => (0, ctx)
  | directory :: rest =>
    let (stats, ctx) := ctx.scan fs directory mode
    let (registered, ctx) := scanAll ctx fs mode rest
    (stats.registered + registered, ctx)

/-- Runs the discovery unless it has run, and gives the directories that were scanned. -/
def discover (ctx : Context) (fs : FileSystem) (layout : Layout) (privileged : Bool)
    (mode : FailureMode) : List Path × Context :=
  if ctx.discovered || !ctx.plugins.isEmpty then ([], ctx.note .alreadyRan)
  else
    let (directories, events) := layout.plan fs privileged
    let ctx := ctx.noteAll events
    if directories.isEmpty then ([], ctx)
    else
      let (registered, ctx) := { ctx with discovered := true }.scanAll fs mode directories
      (directories,
        ctx.note (.discoveryComplete directories.length registered ctx.types.size))

end PluginDiscovery.Context
