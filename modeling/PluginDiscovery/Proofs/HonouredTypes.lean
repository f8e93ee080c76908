import PluginDiscovery.Proofs.FirstDefect
import PluginDiscovery.Proofs.TypeRows

/-!
# Configured types that the engine honours

A configuration that was accepted is handed to the engine, which registers its types one after the
other. The examination of a configuration looks at each type alone and never counts them, and the
engine has 32 bits: so an accepted configuration is honoured as far as there are bits, and as a whole
if and only if it has at most 32 types. That is how it is meant: a type without a bit is reported and
left out, and the run goes on.

* `PluginConfig.Honoured`: all types are registered in their places, and nothing is reported;
* `accepted_engine`, `received_engine`: what the engine makes of any list of types;
* `validate_withTypes_iff`: a list of types is accepted if each of them is;
* `accepted_unhonoured`: an accepted configuration that is not honoured;
* `honoured_iff_room`: the configurations that are honoured, among all that are accepted.
-/

namespace PluginDiscovery

/-! ## 1. The engine -/

namespace PluginConfig

variable (c : PluginConfig) (platform : DynamicLoader)

/-- The engine honours the configured types: it accepts all of them, each has its place in the list
    for a bit, and no failure is reported. -/
structure Honoured : Prop where
  accepted : ((Context.fresh (c.settings platform)).registerEntries c.types).1 = c.types.length
  placed : ∀ (i : Nat) (entry : TypeEntry), c.types[i]? = some entry →
    ∃ t, (c.engine platform).types.types[i]? = some t ∧ t.name = entry.name ∧ t.bit.toNat = i ∧
      t.accepts = PluginType.requiresSymbol entry.symbol
  silent : (c.engine platform).received = []

theorem accepted_engine :
    ((Context.fresh (c.settings platform)).registerEntries c.types).1 = min c.types.length 32 :=
  (Context.fresh (c.settings platform)).accepted_registerEntries c.types

/-- An entry that there is a bit for is registered in its place. -/
theorem getElem?_types_engine {i : Nat} {entry : TypeEntry} (at_i : c.types[i]? = some entry)
    (room : i < 32) : (c.engine platform).types.types[i]? = some (entry.typeAt i) := by
  rw [types_engine, List.getElem?_mapIdx, List.getElem?_take_of_lt room, at_i, Option.map_some]

/-- The engine reports each entry that there is no bit for, and no other. -/
theorem received_engine :
    (c.engine platform).received = (c.types.drop 32).map fun entry =>
      ⟨.failure, (PluginError.typeLimit entry.name 32).message⟩ := by
  have received := (Context.fresh (c.settings platform)).received_registerEntries c.types
  rw [Context.received_fresh, List.nil_append, TypeRegistry.refusals, ← List.map_drop,
    List.map_map] at received
  exact received

/-- **The types are honoured if there is a bit for each.** -/
theorem honoured_iff : c.Honoured platform ↔ c.types.length ≤ 32 := by
  constructor
  · intro honoured
    have accepted := honoured.accepted
    rw [accepted_engine] at accepted
    omega
  · intro room
    refine ⟨by rw [accepted_engine, Nat.min_eq_left room], fun i entry at_i => ?_, ?_⟩
    · have bit : i < 32 := Nat.lt_of_lt_of_le (List.getElem?_eq_some_iff.mp at_i).1 room
      exact ⟨_, c.getElem?_types_engine platform at_i bit, rfl,
        UInt8.toNat_ofNat_of_lt' (Nat.lt_trans bit (by decide)), rfl⟩
    · rw [received_engine, List.drop_eq_nil_of_le room, List.map_nil]

end PluginConfig

/-! ## 2. Accepted configurations -/

namespace AppConfig

/-- The configuration with other types. -/
def withTypes (c : AppConfig) (types : List TypeEntry) : AppConfig :=
  { c with plugins := { c.plugins with types := types } }

/-- **A list of types is accepted if each of them is**, however many they are. -/
theorem validate_withTypes_iff (c : AppConfig) (types : List TypeEntry) :
    (c.withTypes types).validate = .ok () ↔
      (c.withTypes []).validate = .ok () ∧ ∀ t ∈ types, (c.withTypes [t]).validate = .ok () := by
  simp only [validate_eq_ok_iff, defect?_eq_none_iff, withTypes, List.forall_mem_singleton,
    List.not_mem_nil, false_implies, implies_true, true_and]
  constructor
  · rintro ⟨sound, format⟩
    exact ⟨format, fun t ht => ⟨sound t ht, format⟩⟩
  · rintro ⟨format, each⟩
    exact ⟨fun t ht => (each t ht).1, format⟩

end AppConfig

/-- The default configuration with one type too many. -/
def crowdedConfig : AppConfig :=
  AppConfig.standard.withTypes (List.replicate 33 ⟨"codec", Abi.codec⟩)

/-- **An accepted configuration need not be honoured.** With 33 types it is accepted, and the engine
    accepts only 32 of them. -/
theorem accepted_unhonoured :
    crowdedConfig.validate = .ok () ∧
    ¬crowdedConfig.plugins.Honoured bareSurroundings.platform := by
  refine ⟨(AppConfig.standard.validate_withTypes_iff _).mpr ⟨rfl, fun t ht => ?_⟩, fun honoured => ?_⟩
  · rw [List.eq_of_mem_replicate ht]
    rfl
  · have accepted := honoured.accepted
    rw [PluginConfig.accepted_engine] at accepted
    exact absurd accepted (by decide)

/-- **An accepted configuration is honoured if and only if it has at most 32 types.** The engine
    accepts as many of the types as there are bits, registers the first 32 in their places, and
    refuses each later one and reports a failure for it that names it. No number of types makes a
    configuration be refused: a list of types is accepted if each type alone is. -/
theorem honoured_iff_room (c : AppConfig) (platform : DynamicLoader) :
    (c.plugins.Honoured platform ↔ c.plugins.types.length ≤ 32) ∧
    ((Context.fresh (c.plugins.settings platform)).registerEntries c.plugins.types).1 =
      min c.plugins.types.length 32 ∧
    (∀ (i : Nat) (entry : TypeEntry), c.plugins.types[i]? = some entry → i < 32 →
      ∃ t, (c.plugins.engine platform).types.types[i]? = some t ∧ t.name = entry.name ∧
        t.bit.toNat = i ∧ t.accepts = PluginType.requiresSymbol entry.symbol) ∧
    (∀ (i : Nat) (entry : TypeEntry), c.plugins.types[i]? = some entry → 32 ≤ i →
      (c.plugins.answers platform)[i]? = some (.error (.typeLimit entry.name 32))) ∧
    (c.plugins.engine platform).received = (c.plugins.types.drop 32).map (fun entry =>
      ⟨.failure, (PluginError.typeLimit entry.name 32).message⟩) ∧
    (∀ types : List TypeEntry, (c.withTypes types).validate = .ok () ↔
      (c.withTypes []).validate = .ok () ∧ ∀ t ∈ types, (c.withTypes [t]).validate = .ok ()) := by
  refine ⟨c.plugins.honoured_iff platform, c.plugins.accepted_engine platform,
    fun i entry at_i bit => ?_, fun i entry at_i full => ?_, c.plugins.received_engine platform,
    c.validate_withTypes_iff⟩
  · exact ⟨_, c.plugins.getElem?_types_engine platform at_i bit, rfl,
      UInt8.toNat_ofNat_of_lt' (Nat.lt_trans bit (by decide)), rfl⟩
  · rw [c.plugins.getElem?_answers, at_i, Option.map_some, if_neg (Nat.not_lt.mpr full)]

/-- Of 33 types the last but one gets the bit 31, and the last one is refused and reported. -/
theorem honoured_iff_room_crowded :
    crowdedConfig.validate = .ok () ∧
    ¬crowdedConfig.plugins.Honoured bareSurroundings.platform ∧
    ((Context.fresh (crowdedConfig.plugins.settings bareSurroundings.platform)).registerEntries
      crowdedConfig.plugins.types).1 = 32 ∧
    (∃ t, (crowdedConfig.plugins.engine bareSurroundings.platform).types.types[31]? = some t ∧
      t.bit.toNat = 31) ∧
    (crowdedConfig.plugins.answers bareSurroundings.platform)[32]? =
      some (.error (.typeLimit "codec" 32)) ∧
    (crowdedConfig.plugins.engine bareSurroundings.platform).received = [⟨.failure,
      "At most 32 plugin types can be supported, so the plugin type 'codec' won't be supported."⟩] := by
  obtain ⟨honoured, accepted, placed, refused, received, -⟩ :=
    honoured_iff_room crowdedConfig bareSurroundings.platform
  obtain ⟨-, -, -, -, -, valid⟩ := honoured_iff_room AppConfig.standard bareSurroundings.platform
  obtain ⟨t, at_last, -, bit, -⟩ := placed 31 ⟨"codec", Abi.codec⟩ rfl (by decide)
  refine ⟨(valid _).mpr ⟨rfl, fun t ht => ?_⟩, fun all => ?_, accepted, ⟨t, at_last, bit⟩,
    refused 32 ⟨"codec", Abi.codec⟩ rfl (by decide), received⟩
  · rw [List.eq_of_mem_replicate ht]
    rfl
  · exact absurd (honoured.mp all) (by decide)

end PluginDiscovery
