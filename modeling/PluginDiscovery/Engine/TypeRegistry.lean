import PluginDiscovery.Engine.Module
import PluginDiscovery.Engine.TypeMask
import PluginDiscovery.Error.Plugin
import PluginDiscovery.Text.Quoted

/-!
# Plugin types

The categories of plugins a host recognises. Each has a name, which other types may share, the bit
it has in a mask and the test that decides whether a module belongs to it.

* `TypeRegistry.register`: bits are given out in the order of registration, from zero on, until
  every bit of a mask is taken;
* `TypeRegistry.classify`: the mask of a module;
* `TypeRegistry.names`, `describe`: a mask read back as the names of its types.
-/

namespace PluginDiscovery

/-- A plugin type. -/
structure PluginType where
  name : String
  bit : UInt8
  accepts : Module → Bool

namespace PluginType

/-- The test that a module passes when it exports a symbol. -/
def requiresSymbol (symbol : String) : Module → Bool :=
  fun m => m.exports symbol

/-- The type as diagnostics show it. -/
def shown (t : PluginType) : String :=
  "PluginType \x7b name: " ++ Quoted.text t.name ++ ", bit_index: " ++ toString t.bit.toNat
    ++ ", .. \x7d"

end PluginType

/-- A plugin type as it is configured: its name and the symbol that its plugins export. -/
structure TypeEntry where
  name : String
  symbol : String
  deriving DecidableEq, Repr

/-- The registered types, in the order of their registration. -/
structure TypeRegistry where
  types : List PluginType

namespace TypeRegistry

/-- The registry without a type. -/
def empty : TypeRegistry := ⟨[]⟩

/-- How many types are registered. -/
def size (r : TypeRegistry) : Nat :=
  r.types.length

/-- The registry with one more type, and the bit it got; a full registry refuses it. -/
def register (r : TypeRegistry) (name : String) (accepts : Module → Bool) :
    Except PluginError (UInt8 × TypeRegistry) :=
  if Abi.maxTypes ≤ r.size then .error (.typeLimit name Abi.maxTypes)
  else
    let bit := r.size.toUInt8
    .ok (bit, ⟨r.types ++ [⟨name, bit, accepts⟩]⟩)

/-- The bits of the types that accept a module. -/
def classify (r : TypeRegistry) (m : Module) : TypeMask :=
  r.types.foldl (fun mask t => if t.accepts m then mask.set t.bit else mask) .empty

/-- The names of the types in a mask, in the order of registration. -/
def names (r : TypeRegistry) (mask : TypeMask) : List String :=
  (r.types.filter fun t => mask.contains t.bit).map PluginType.name

/-- The names of the types in a mask, joined by commas. -/
def describe (r : TypeRegistry) (mask : TypeMask) : String :=
  ", ".intercalate (r.names mask)

/-- The first type of a name. -/
def get? (r : TypeRegistry) (name : String) : Option PluginType :=
  r.types.find? fun t => t.name = name

/-- The registry as diagnostics show it. -/
def shown (r : TypeRegistry) : String :=
  "PluginTypeRegistry \x7b types: [" ++ ", ".intercalate (r.types.map PluginType.shown) ++ "] \x7d"

end TypeRegistry

end PluginDiscovery
