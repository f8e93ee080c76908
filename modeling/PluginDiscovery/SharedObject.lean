import PluginDiscovery.Library

/-!
# Shared libraries as files

A shared library is kept in the Executable and Linkable Format. This file reads as much of the
64-bit little-endian form as a host needs: the table of dynamic symbols, which tells the exported
names, and for a symbol that is data the bytes that lie where it points.

* `Image`: the bytes of a file, with numbers of one to eight bytes read at a position;
* `Image.exports`: the exported names;
* `Library.ofImage?`: the library in a file, if the file is one.
-/

namespace PluginDiscovery

/-- The bytes of a file. -/
structure Image where
  bytes : ByteArray

namespace Image

/-! ## 1. Numbers and strings -/

/-- The byte at a position; past the end there are zeros. -/
def byte (i : Image) (position : Nat) : Nat :=
  (i.bytes.data[position]?.getD 0).toNat

/-- The number of some bytes at a position, the least significant one first. -/
def number (i : Image) (size position : Nat) : Nat :=
  (List.range size).foldr (fun k n => n * 256 + i.byte (position + k)) 0

/-- The bytes from a position on up to the first zero, at most so many. -/
def stringAt (i : Image) (most position : Nat) : Bytes :=
  ((i.bytes.extract position (position + most)).toList).takeWhile (· ≠ 0)

/-! ## 2. Tables -/

/-- The first bytes of every file of the format: a mark, then the 64-bit form and its byte order. -/
def mark : Bytes := [0x7F, 0x45, 0x4C, 0x46, 2, 1]

/-- Whether the file is a shared library, which type 3 tells. -/
def isLibrary (i : Image) : Bool :=
  (i.bytes.extract 0 mark.length).toList == mark && i.number 2 16 == 3

/-- The positions of the entries of a table. -/
def positions (start size count : Nat) : List Nat :=
  (List.range count).map fun k => start + k * size

/-- The positions of the descriptions of sections. -/
def sections (i : Image) : List Nat :=
  positions (i.number 8 40) (i.number 2 58) (i.number 2 60)

/-- The positions of the descriptions of segments. -/
def segments (i : Image) : List Nat :=
  positions (i.number 8 32) (i.number 2 54) (i.number 2 56)

/-- The position in the file of what lies at an address in memory, and how many bytes of the
    segment follow there. Loaded segments are of type 1. -/
def located (i : Image) (address : Nat) : Option (Nat × Nat) :=
  i.segments.findSome? fun segment =>
    let start := i.number 8 (segment + 16)
    let size := i.number 8 (segment + 32)
    if i.number 4 segment = 1 ∧ start ≤ address ∧ address < start + size then
      some (i.number 8 (segment + 8) + (address - start), start + size - address)
    else none

/-! ## 3. Symbols -/

/-- Whether the symbol described at a position is exported: it is defined, bound globally, weakly or
    uniquely, and visible from outside. -/
def isExported (i : Image) (symbol : Nat) : Bool :=
  let binding := i.byte (symbol + 4) / 16
  let visibility := i.byte (symbol + 5) % 4
  i.number 2 (symbol + 6) != 0 && (binding == 1 || binding == 2 || binding == 10)
    && (visibility == 0 || visibility == 3)

/-- The bytes of a symbol that is data, type 1: they end at the first zero. -/
def dataOf (i : Image) (symbol : Nat) : Option Bytes :=
  if i.byte (symbol + 4) % 16 = 1 then
    (i.located (i.number 8 (symbol + 8))).map fun (position, most) => i.stringAt most position
  else none

/-- The exported symbols of the table that the section at a position describes, whose names lie in
    the section that it links to. -/
def symbolsOf (i : Image) (table : Nat) : List (String × Option Bytes) :=
  let names := i.number 8 ((i.sections[i.number 4 (table + 40)]?).getD 0 + 24)
  let size := i.number 8 (table + 56)
  let symbols := positions (i.number 8 (table + 24)) size (i.number 8 (table + 32) / size)
  (symbols.filter i.isExported).map fun symbol =>
    (Utf8.lossy (i.stringAt 4096 (names + i.number 4 symbol)), i.dataOf symbol)

/-- The exported names of a library, with the bytes of those that are data. The table of dynamic
    symbols is of type 11. -/
def exports (i : Image) : List (String × Option Bytes) :=
  (i.sections.filter fun table => i.number 4 (table + 4) = 11).flatMap i.symbolsOf

end Image

/-- The library in a file, if the file is one. -/
def Library.ofImage? (i : Image) : Option Library :=
  if i.isLibrary then some ⟨i.exports⟩ else none

end PluginDiscovery
