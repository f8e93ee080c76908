import PluginDiscovery.Decimal.Shortest
import PluginDiscovery.Json.Basic

/-!
# Writing JSON

Two forms of a document: on one line without blanks, and over several lines with two blanks for each
level. In strings the quote, the backslash and the control characters are escaped and all else is
written as it is.
-/

namespace PluginDiscovery.Json

/-- A character inside a string. -/
def escape (c : Char) : List Char :=
  if c = '"' then ['\\', '"']
  else if c = '\\' then ['\\', '\\']
  else if c = '\x08' then ['\\', 'b']
  else if c = '\x0c' then ['\\', 'f']
  else if c = '\n' then ['\\', 'n']
  else if c = '\r' then ['\\', 'r']
  else if c = '\t' then ['\\', 't']
  else if c.toNat < 0x20 then
    ['\\', 'u', '0', '0'] ++ (if c.toNat < 0x10 then ['0'] else []) ++ Nat.toDigits 16 c.toNat
  else [c]

/-- A string between quotes. -/
def quote (s : String) : String :=
  String.ofList (['"'] ++ s.toList.flatMap escape ++ ['"'])

/-- A value that has no parts. -/
def scalar : Json → String
  | .null => "null"
  | .boolean true => "true"
  | .boolean false => "false"
  | .integer i => toString i
  | .float x => FloatText.document.write x
  | .text s => quote s
  | .array _ => "[]"
  | .object _ => "\x7b\x7d"

mutual

/-- A value on one line. -/
def compact : Json → String
  | .array items => "[" ++ compactItems items ++ "]"
  | .object fields => "\x7b" ++ compactFields fields ++ "\x7d"
  | .null => scalar .null
  | .boolean b => scalar (.boolean b)
  | .integer i => scalar (.integer i)
  | .float x => scalar (.float x)
  | .text s => scalar (.text s)

/-- Items on one line, with commas between them. -/
def compactItems : List Json → String
  | [] => ""
  | [j] => compact j
  | j :: rest => compact j ++ "," ++ compactItems rest

/-- Fields on one line, with commas between them. -/
def compactFields : List (String × Json) → String
  | [] => ""
  | [(key, j)] => quote key ++ ":" ++ compact j
  | (key, j) :: rest => quote key ++ ":" ++ compact j ++ "," ++ compactFields rest

end

/-- The beginning of a line at a level. -/
def indent (level : Nat) : String :=
  String.ofList (List.replicate (2 * level) ' ')

mutual

/-- A value over several lines, at a level. -/
def prettyAt (level : Nat) : Json → String
  | .array [] => "[]"
  | .array items => "[\n" ++ prettyItems (level + 1) items ++ "\n" ++ indent level ++ "]"
  | .object [] => "\x7b\x7d"
  | .object fields =>
    "\x7b\n" ++ prettyFields (level + 1) fields ++ "\n" ++ indent level ++ "\x7d"
  | .null => scalar .null
  | .boolean b => scalar (.boolean b)
  | .integer i => scalar (.integer i)
  | .float x => scalar (.float x)
  | .text s => scalar (.text s)

/-- Items, each on its lines. -/
def prettyItems (level : Nat) : List Json → String
  | [] => ""
  | [j] => indent level ++ prettyAt level j
  | j :: rest => indent level ++ prettyAt level j ++ ",\n" ++ prettyItems level rest

/-- Fields, each on its lines. -/
def prettyFields (level : Nat) : List (String × Json) → String
  | [] => ""
  | [(key, j)] => indent level ++ quote key ++ ": " ++ prettyAt level j
  | (key, j) :: rest =>
    indent level ++ quote key ++ ": " ++ prettyAt level j ++ ",\n" ++ prettyFields level rest

end

/-- A document over several lines. -/
def pretty (j : Json) : String :=
  prettyAt 0 j

end PluginDiscovery.Json
