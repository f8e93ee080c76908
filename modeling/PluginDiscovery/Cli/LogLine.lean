import PluginDiscovery.Engine.Event
import PluginDiscovery.Json.Printer

/-!
# Lines of the log

An event is written as a line of text or as a line of data, with the time before everything else. In
a line of text the level takes five columns, and control characters of the message that could steer
a terminal are written as escapes.
-/

namespace PluginDiscovery

/-- The form of the log. -/
inductive LogFormat where
  | text
  | json
  deriving DecidableEq, Repr

/-- The form of a name in the configuration. -/
def LogFormat.ofName (name : String) : LogFormat :=
  if name = "json" then .json else .text

namespace LogLine

/-- A character of a message. -/
def escape (c : Char) : List Char :=
  if c = '\x1b' then ['\\', 'x', '1', 'b']
  else if c = '\x07' then ['\\', 'x', '0', '7']
  else if c = '\x08' then ['\\', 'x', '0', '8']
  else if c = '\x0c' then ['\\', 'x', '0', 'c']
  else if c = '\x7f' then ['\\', 'x', '7', 'f']
  else if 0x80 ≤ c.toNat ∧ c.toNat ≤ 0x9F then
    ['\\', 'u', '\x7b'] ++ Nat.toDigits 16 c.toNat ++ ['\x7d']
  else [c]

/-- A message without characters that steer a terminal. -/
def plain (message : String) : String :=
  String.ofList (message.toList.flatMap escape)

/-- A level with blanks before it, five columns together. -/
def levelColumn (level : Level) : String :=
  String.ofList (List.replicate (5 - level.name.length) ' ') ++ level.name

/-- An event as a line of text, without the line feed. -/
def text (time : String) (e : Event) : String :=
  time ++ " " ++ levelColumn e.level ++ " " ++ e.target ++ ": " ++ plain e.message
    ++ String.join (e.fields.map fun (name, value) => " " ++ name ++ "=" ++ value.shown)

/-- A value as data. -/
def value : FieldValue → Json
  | .text s => .text s
  | .number n => .integer n

/-- An event as data. -/
def toJson (time : String) (e : Event) : Json :=
  .object [("timestamp", .text time), ("level", .text e.level.name),
    ("fields", .object (("message", .text e.message)
      :: e.fields.map fun (name, v) => (name, value v))),
    ("target", .text e.target)]

/-- An event as a line, with its line feed. -/
def write (format : LogFormat) (time : String) (e : Event) : String :=
  match format with
  | .text => text time e ++ "\n"
  | .json => (toJson time e).compact ++ "\n"

end LogLine

end PluginDiscovery
