import PluginDiscovery.Text.Utf8

/-!
# What a host and its plugins agree on

The names under which a plugin exports what the host looks for, and the form of the strings it
exports: an array of bytes that ends at its first zero.

* `cString`: the text of such an array, read up to the first zero whatever follows it;
* `symbolName?`: a name as the dynamic loader takes it, which no name with a zero in it has;
* `nulTerminated`: a text as an array of a given size, checked and then copied byte by byte;
* `pluginVersion`: the array a plugin exports for its version.
-/

namespace PluginDiscovery.Abi

/-! ## 1. Names -/

/-- The exported string every plugin provides. -/
def version : String := "version"

/-- The registration routine of protocol dissectors. -/
def dissector : String := "plugin_register"

/-- The registration routine of capture file types. -/
def fileType : String := "register_wtap_module"

/-- The registration routine of codecs. -/
def codec : String := "register_codec"

/-- The name of the application's directory under the user's data directory. -/
def applicationDirectory : String := "plugscan"

/-- The most plugin types there can be, one for each bit of a mask. -/
def maxTypes : Nat := 32

/-! ## 2. Strings that end at a zero -/

/-- The text of a string in memory: the bytes before the first zero. -/
def cString (memory : Bytes) : String :=
  Utf8.lossy (memory.takeWhile (· ≠ 0))

/-- The text at an address, which may be null. -/
def cString? (memory : Option Bytes) : Option String :=
  memory.map cString

/-- A name with the zero that ends it. -/
def symbolName? (name : String) : Option Bytes :=
  let bs := Utf8.encode name
  if bs.contains 0 then none else some (bs ++ [0])

/-- Why an array of a version string cannot be built. -/
inductive ArrayFault where
  | lengthMismatch
  | missingTerminator
  deriving DecidableEq, Repr

/-- The text of a fault. -/
def ArrayFault.message : ArrayFault → String
  | .lengthMismatch => "length mismatch"
  | .missingTerminator => "missing NUL terminator"

/-- The loop that copies bytes into an array of the same size, from an index on. -/
def copyFrom (bytes out : Bytes) (fits : out.length = bytes.length) (i : Nat) : Bytes :=
  if inside : i < out.length then
    have : i < bytes.length := fits ▸ inside
    copyFrom bytes (out.set i bytes[i]) (List.length_set.trans fits) (i + 1)
  else out
termination_by out.length - i
decreasing_by
  rw [List.length_set]
  omega

/-- A text as an array of the given size, whose last byte has to be zero. -/
def nulTerminated (size : Nat) (s : String) : Except ArrayFault Bytes :=
  let bytes := Utf8.encode s
  if fits : bytes.length = size then
    if 0 < size ∧ bytes[size - 1]? = some 0 then
      .ok (copyFrom bytes (List.replicate size 0) (List.length_replicate.trans fits.symm) 0)
    else .error .missingTerminator
  else .error .lengthMismatch

/-- What a plugin exports for its version: the text with a zero behind it, as an array of its size. -/
def pluginVersion (version : String) : Except ArrayFault Bytes :=
  let text := version ++ "\x00"
  nulTerminated (Utf8.encode text).length text

/-! ## 3. Addresses -/

/-- The address of an exported symbol, which is not null. -/
structure Address where
  value : Nat
  value_ne_zero : value ≠ 0
  deriving DecidableEq

/-- The address with the given number, if it is not null. -/
def Address.ofNat? (n : Nat) : Option Address :=
  if h : n ≠ 0 then some ⟨n, h⟩ else none

end PluginDiscovery.Abi
