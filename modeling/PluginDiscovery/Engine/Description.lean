import PluginDiscovery.Engine.Context

/-!
# Descriptions of plugins

What a user is shown of a plugin: its name, its version, the names of its types and its path. The
dump writes a line for each plugin, the four parts separated by tabs; it goes out piece by piece,
and a writer of limited size stops it at the first piece that does not fit.
-/

namespace PluginDiscovery

/-- What is shown of a plugin. -/
structure Description where
  name : String
  version : String
  types : String
  path : String
  deriving DecidableEq, Repr

namespace Description

/-- The parts of the line of a plugin, in the order in which they are written. -/
def pieces (d : Description) : List String :=
  [d.name, "\t", d.version, "\t", d.types, "\t", d.path, "\n"]

/-- The line of a plugin. -/
def line (d : Description) : String :=
  String.join d.pieces

end Description

/-- A writer that holds so many bytes. -/
structure BoundedWriter where
  capacity : Nat
  held : Bytes
  deriving DecidableEq, Repr

namespace BoundedWriter

/-- The writer with nothing written to it. -/
def ofCapacity (n : Nat) : BoundedWriter := ⟨n, []⟩

/-- Writes a piece; of one that does not fit the part that fits is kept, and the writing fails. -/
def write (w : BoundedWriter) (piece : Bytes) : Bool × BoundedWriter :=
  let room := w.capacity - w.held.length
  (decide (piece.length ≤ room), { w with held := w.held ++ piece.take room })

/-- Writes pieces until one fails; tells whether all were written. -/
def writeAll (w : BoundedWriter) : List Bytes → Bool × BoundedWriter
  | [] => (true, w)
  | piece :: rest =>
    match w.write piece with
    | (true, w) => writeAll w rest
    | (false, w) => (false, w)

end BoundedWriter

namespace Context

/-- What is shown of one plugin. -/
def describe (ctx : Context) (p : Plugin) : Description :=
  ⟨p.name, p.version, ctx.types.describe p.mask, p.path.shown⟩

/-- What is shown of every plugin, in the order of registration. -/
def descriptions (ctx : Context) : List Description :=
  ctx.plugins.plugins.map ctx.describe

/-- The text of the dump. -/
def dump (ctx : Context) : String :=
  String.join (ctx.descriptions.map Description.line)

/-- The dump written to a writer that holds so many bytes: whether all of it was written, and the
    writer after it. -/
def dumpInto (ctx : Context) (capacity : Nat) : Bool × BoundedWriter :=
  (BoundedWriter.ofCapacity capacity).writeAll
    ((ctx.descriptions.flatMap Description.pieces).map Utf8.encode)

/-- The dump for a caller that gives it room for so many bytes: the error if they are too few, and the
    bytes that were written in either case. -/
def dumpAll (ctx : Context) (capacity : Nat) : Except IoError Unit × Bytes :=
  let (complete, writer) := ctx.dumpInto capacity
  (if complete then .ok () else .error .writeZero, writer.held)

end Context

end PluginDiscovery
