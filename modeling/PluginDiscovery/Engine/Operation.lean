import PluginDiscovery.Engine.Description
import PluginDiscovery.Engine.Discovery

/-!
# Operations on a context

What a host can do with a context, as data, so that whole histories can be spoken of. Each operation
on files carries the file system it works on: between two operations files may change in any way.

* `Operation.run`: one operation, with its outcome;
* `Context.runAll`: a history, with the outcomes of its operations in order.
-/

namespace PluginDiscovery

/-- Something a host does with a context. -/
inductive Operation where
  | registerType (name : String) (accepts : Module → Bool)
  | registerEntries (entries : List TypeEntry)
  | scan (fs : FileSystem) (directory : Path) (mode : FailureMode)
  | discover (fs : FileSystem) (layout : Layout) (privileged : Bool) (mode : FailureMode)
  | cleanup
  | describe
  | dump (capacity : Nat)

/-- What an operation answers. -/
inductive Outcome where
  | bit (answer : Except PluginError UInt8)
  | accepted (count : Nat)
  | scanned (stats : ScanStats)
  | visited (directories : List Path)
  | cleaned
  | described (descriptions : List Description)
  | dumped (complete : Bool) (text : Bytes)

/-- One operation: its outcome, and the context after it. -/
def Operation.run (ctx : Context) : Operation → Outcome × Context
  | .registerType name accepts =>
    let (answer, ctx) := ctx.registerType name accepts
    (.bit answer, ctx)
  | .registerEntries entries =>
    let (count, ctx) := ctx.registerEntries entries
    (.accepted count, ctx)
  | .scan fs directory mode =>
    let (stats, ctx) := ctx.scan fs directory mode
    (.scanned stats, ctx)
  | .discover fs layout privileged mode =>
    let (directories, ctx) := ctx.discover fs layout privileged mode
    (.visited directories, ctx)
  | .cleanup => (.cleaned, ctx.cleanup)
  | .describe => (.described ctx.descriptions, ctx)
  | .dump capacity =>
    let (complete, writer) := ctx.dumpInto capacity
    (.dumped complete writer.held, ctx)

/-- A history of operations: their outcomes in order, and the context after the last. -/
def Context.runAll (ctx : Context) : List Operation → List Outcome × Context
  | [] => ([], ctx)
  | op :: rest =>
    let (outcome, ctx) := op.run ctx
    let (outcomes, ctx) := runAll ctx rest
    (outcome :: outcomes, ctx)

end PluginDiscovery
