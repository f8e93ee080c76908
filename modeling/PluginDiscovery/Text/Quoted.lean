import PluginDiscovery.Text.Utf8
import PluginDiscovery.Text.Printable

/-!
# Quoted texts

A quoted text shows a string so that every character of it can be read off: it stands between
double quotes, and what a reader could not tell is written as an escape. A byte string that is not
valid UTF-8 is quoted the same way, its invalid bytes in hexadecimal.
-/

namespace PluginDiscovery.Quoted

/-- The digits of a number in base sixteen, lower case. -/
def hexLower (n : Nat) : List Char :=
  Nat.toDigits 16 n

/-- Two upper-case hexadecimal digits. -/
def hexByte (b : UInt8) : List Char :=
  let digit (n : Nat) : Char := Char.ofNat (if n < 10 then 48 + n else 55 + n)
  [digit (b.toNat / 16), digit (b.toNat % 16)]

/-- A character inside a quoted text. -/
def escapeChar (c : Char) : List Char :=
  if c = '\x00' then ['\\', '0']
  else if c = '\t' then ['\\', 't']
  else if c = '\r' then ['\\', 'r']
  else if c = '\n' then ['\\', 'n']
  else if c = '\\' then ['\\', '\\']
  else if c = '"' then ['\\', '"']
  else if Printable.isPlain c then [c]
  else ['\\', 'u', '\x7b'] ++ hexLower c.toNat ++ ['\x7d']

/-- A text between double quotes. -/
def text (s : String) : String :=
  String.ofList (['"'] ++ s.toList.flatMap escapeChar ++ ['"'])

/-- A chunk of a quoted byte string. -/
def chunk : Utf8.Chunk → List Char
  | .char c => escapeChar c
  | .bad bs => bs.flatMap fun b => ['\\', 'x'] ++ hexByte b

/-- A byte string between double quotes. -/
def bytes (bs : Bytes) : String :=
  String.ofList (['"'] ++ (Utf8.chunks bs).flatMap chunk ++ ['"'])

end PluginDiscovery.Quoted
