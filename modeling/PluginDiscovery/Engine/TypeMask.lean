import PluginDiscovery.Abi

/-!
# Masks of plugin types

A mask records in 32 bits which plugin types a plugin satisfies, one bit for each type.
-/

namespace PluginDiscovery

/-- A set of bit positions below 32. -/
structure TypeMask where
  bits : UInt32
  deriving DecidableEq, Repr

namespace TypeMask

/-- The mask without a bit. -/
def empty : TypeMask := ⟨0⟩

/-- The mask with the bit at an index set. -/
def set (mask : TypeMask) (index : UInt8) : TypeMask :=
  ⟨mask.bits ||| (1 <<< index.toUInt32)⟩

/-- Whether the bit at an index is set; there is no bit from index 32 on. -/
def contains (mask : TypeMask) (index : UInt8) : Bool :=
  decide (index.toNat < Abi.maxTypes) && (mask.bits &&& (1 <<< index.toUInt32)) != 0

/-- Whether no bit is set. -/
def isEmpty (mask : TypeMask) : Bool :=
  mask.bits == 0

theorem isEmpty_iff {mask : TypeMask} : mask.isEmpty = true ↔ mask = empty := by
  obtain ⟨bits⟩ := mask
  simp [isEmpty, empty]

/-- The mask as diagnostics show it. -/
def shown (mask : TypeMask) : String :=
  "TypeMask(" ++ toString mask.bits.toNat ++ ")"

end TypeMask

end PluginDiscovery
