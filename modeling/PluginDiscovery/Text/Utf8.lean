/-!
# UTF-8: bytes and the text they spell

File names, versions and configuration files come in as bytes and go out as text. This file holds
the encoding and the two ways back:

* `encode`: the bytes of a text, character by character;
* `chunks`: a byte string cut into the characters it spells and the maximal invalid sequences
  between them. The cutting is a machine that reads one byte at a time (`feed`) and holds at most
  one unfinished character (`Pending`), so nothing is read twice;
* `decode?`: the text of the bytes when no chunk is invalid;
* `lossy`: the text in which every invalid chunk is one U+FFFD.

The ranges a byte is held to are those of the well-formed byte sequences of the Unicode standard,
so a sequence is refused at the first byte that no character continues with.
-/

namespace PluginDiscovery

/-- A string of bytes: the content of a file, a path, a file name. -/
abbrev Bytes := List UInt8

namespace Utf8

/-! ## 1. Encoding -/

/-- The bytes of a text. -/
def encode (s : String) : Bytes :=
  s.toList.flatMap String.utf8EncodeChar

/-! ## 2. The machine that cuts bytes into chunks -/

/-- A piece of a byte string: a character, or bytes that begin none. -/
inductive Chunk where
  | char (c : Char)
  | bad (bytes : Bytes)
  deriving DecidableEq, Repr

/-- A character that has begun: the bytes seen, the bits they carry, how many bytes are still
    missing, and the range the next one has to be in. -/
structure Pending where
  seen : Bytes
  value : Nat
  missing : Nat
  low : UInt8
  high : UInt8
  deriving DecidableEq, Repr

/-- The machine between two characters: what one byte yields there and what it leaves open. -/
def start (b : UInt8) : List Chunk × Option Pending :=
  if b ≤ 0x7F then ([.char (Char.ofNat b.toNat)], none)
  else if b < 0xC2 then ([.bad [b]], none)
  else if b ≤ 0xDF then ([], some ⟨[b], b.toNat - 0xC0, 1, 0x80, 0xBF⟩)
  else if b = 0xE0 then ([], some ⟨[b], 0, 2, 0xA0, 0xBF⟩)
  else if b = 0xED then ([], some ⟨[b], 13, 2, 0x80, 0x9F⟩)
  else if b ≤ 0xEF then ([], some ⟨[b], b.toNat - 0xE0, 2, 0x80, 0xBF⟩)
  else if b = 0xF0 then ([], some ⟨[b], 0, 3, 0x90, 0xBF⟩)
  else if b ≤ 0xF3 then ([], some ⟨[b], b.toNat - 0xF0, 3, 0x80, 0xBF⟩)
  else if b = 0xF4 then ([], some ⟨[b], 4, 3, 0x80, 0x8F⟩)
  else ([.bad [b]], none)

/-- One byte. A byte outside the range the open character asks for ends that character as an
    invalid chunk and is then read as a first byte. -/
def feed : Option Pending → UInt8 → List Chunk × Option Pending
  | none, b => start b
  | some p, b =>
    if p.low ≤ b ∧ b ≤ p.high then
      let value := p.value * 64 + (b.toNat - 0x80)
      if p.missing = 1 then ([.char (Char.ofNat value)], none)
      else ([], some ⟨p.seen ++ [b], value, p.missing - 1, 0x80, 0xBF⟩)
    else (.bad p.seen :: (start b).1, (start b).2)

/-- The chunks of the bytes that follow an open character. -/
def chunksFrom : Option Pending → Bytes → List Chunk
  | none, [] => []
  | some p, [] => [.bad p.seen]
  | p, b :: bs => (feed p b).1 ++ chunksFrom (feed p b).2 bs

/-- The characters and the maximal invalid sequences of a byte string, in order. -/
def chunks (bs : Bytes) : List Chunk :=
  chunksFrom none bs

/-! ## 3. Text -/

/-- The character that stands for an invalid sequence. -/
def replacement : Char := '\uFFFD'

/-- What a chunk contributes to the lossy text. -/
def Chunk.shown : Chunk → Char
  | .char c => c
  | .bad _ => replacement

/-- The character of a chunk, if it is one. -/
def Chunk.char? : Chunk → Option Char
  | .char c => some c
  | .bad _ => none

/-- The text of the bytes, each maximal invalid sequence replaced by U+FFFD. -/
def lossy (bs : Bytes) : String :=
  String.ofList ((chunks bs).map Chunk.shown)

/-- The text of the bytes, if they are valid throughout. -/
def decode? (bs : Bytes) : Option String :=
  ((chunks bs).mapM Chunk.char?).map String.ofList

end Utf8

end PluginDiscovery
