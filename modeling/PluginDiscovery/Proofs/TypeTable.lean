import Mathlib
import PluginDiscovery.Proofs.MaskBits

/-!
# One table of types, read both ways

A registry tells the mask of a module and the names of a mask. Both are read off one table, in which
each type stands at the place that its bit counts. So the names of a module's mask are those of the
types that accept the module, and of any other mask a registry names what it has a type for.

* `Numbered.map_bit`: the bits of the types are the places of the table. From this
  `Numbered.contains_classify_iff` reads a mask off the table, and `Numbered.names_eq` the names;
* `mask_and_names`: all of it, after every list of requests.
-/

namespace PluginDiscovery

namespace TypeRegistry

variable {r : TypeRegistry} {t : PluginType} {m : Module} {b : UInt8}

/-! ## 1. Places -/

/-- The bits of the types are the places of the table, in order. -/
theorem Numbered.map_bit (h : r.Numbered) :
    r.types.map (fun t => t.bit.toNat) = List.range r.size := by
  refine List.ext_getElem (by rw [List.length_map, List.length_range, size]) fun i hi _ => ?_
  rw [List.length_map] at hi
  rw [List.getElem_map, List.getElem_range]
  exact h.bit_eq i _ (List.getElem?_eq_getElem hi)

/-- A type stands at the place that its bit counts. -/
theorem Numbered.getElem?_bit (h : r.Numbered) (ht : t ∈ r.types) :
    r.types[t.bit.toNat]? = some t := by
  obtain ⟨i, hi⟩ := List.mem_iff_getElem?.mp ht
  rw [h.bit_eq i t hi, hi]

/-- **A module has the bit of a place if the type there accepts it.** -/
theorem Numbered.contains_classify_iff (h : r.Numbered) :
    (r.classify m).contains b = true ↔
      ∃ t, r.types[b.toNat]? = some t ∧ t.accepts m = true := by
  rw [contains_classify h]
  constructor
  · rintro ⟨t, ht, rfl, accepted⟩
    exact ⟨t, h.getElem?_bit ht, accepted⟩
  · rintro ⟨t, place, accepted⟩
    exact ⟨t, List.mem_of_getElem? place, UInt8.toNat_inj.mp (h.bit_eq _ t place), accepted⟩

/-- A type accepts a module if the module has its bit. -/
theorem Numbered.contains_classify_bit (h : r.Numbered) (ht : t ∈ r.types) :
    (r.classify m).contains t.bit = t.accepts m := by
  rw [Bool.eq_iff_iff, h.contains_classify_iff, h.getElem?_bit ht]
  simp

theorem Numbered.isEmpty_classify_iff (h : r.Numbered) :
    (r.classify m).isEmpty = true ↔ ∀ t ∈ r.types, t.accepts m = false := by
  rw [← not_iff_not, Bool.not_eq_true, TypeMask.isEmpty_eq_false_iff]
  constructor
  · rintro ⟨b, hb⟩ refused
    obtain ⟨t, ht, -, accepted⟩ := (contains_classify h).mp hb
    rw [refused t ht] at accepted
    cases accepted
  · intro some_accepts
    obtain ⟨t, ht, accepted⟩ : ∃ t ∈ r.types, t.accepts m = true := by simpa using some_accepts
    exact ⟨t.bit, (h.contains_classify_bit ht).trans accepted⟩

/-! ## 2. Names -/

/-- **The names of a module's mask are those of the types that accept the module.** -/
theorem Numbered.names_classify (h : r.Numbered) (m : Module) :
    r.names (r.classify m) = (r.types.filter fun t => t.accepts m).map PluginType.name := by
  rw [names, List.filter_congr fun t ht => h.contains_classify_bit ht]

/-- **The names of a mask are those at the places where its number has a bit**, as far as there are
    types. -/
theorem Numbered.names_eq (h : r.Numbered) (mask : TypeMask) :
    r.names mask = ((List.range r.size).filter mask.bits.toNat.testBit).filterMap fun i =>
      r.types[i]?.map PluginType.name := by
  have placed : ∀ t ∈ r.types.filter (fun t => mask.bits.toNat.testBit t.bit.toNat),
      r.types[t.bit.toNat]?.map PluginType.name = some t.name := fun t ht => by
    rw [h.getElem?_bit (List.mem_of_mem_filter ht), Option.map_some]
  rw [← h.map_bit, List.filter_map, List.filterMap_map, names]
  simp only [TypeMask.contains_eq]
  rw [← List.filterMap_eq_map]
  exact (List.filterMap_congr placed).symm

/-- A mask has as many names as it has bits at places where there are types. -/
theorem Numbered.length_names (h : r.Numbered) (mask : TypeMask) :
    (r.names mask).length = (List.range r.size).countP mask.bits.toNat.testBit := by
  rw [← h.map_bit, List.countP_map, names, List.length_map, ← List.countP_eq_length_filter]
  simp only [TypeMask.contains_eq, Function.comp_def]

end TypeRegistry

/-! ## 3. All of it -/

/-- **A registry reads masks and names off one table.** After any requests for types it has the first
    32, each at the place that its bit counts. A module has the bits of the places where a type accepts
    it, so it has none exactly if no type does, and its mask has the names of the types that accept
    it, in their order, repeated names included. Of any mask a registry names the types at the places
    where the number of the mask has a bit: as many as there are such places below the number of types,
    whatever the bits above. And a mask in which bits were set, in whatever order, has those it had
    and those that were set, and none from 32 on. -/
theorem mask_and_names (requests : List (String × (Module → Bool))) (r : TypeRegistry)
    (reached : r = TypeRegistry.empty.requestAll requests) :
    r.types = (requests.take 32).mapIdx (fun i wanted => ⟨wanted.1, i.toUInt8, wanted.2⟩) ∧
    (∀ (m : Module) (b : UInt8), (r.classify m).contains b = true ↔
      ∃ below : b.toNat < r.types.length, r.types[b.toNat].accepts m = true) ∧
    (∀ m, (r.classify m).isEmpty = true ↔ ∀ t ∈ r.types, t.accepts m = false) ∧
    (∀ m, r.names (r.classify m) =
      (r.types.filter fun t => t.accepts m).map PluginType.name) ∧
    (∀ mask, r.names mask =
      ((List.range r.size).filter mask.bits.toNat.testBit).filterMap fun i =>
        r.types[i]?.map PluginType.name) ∧
    (∀ mask other : TypeMask,
      (∀ i < r.size, mask.bits.toNat.testBit i = other.bits.toNat.testBit i) →
      r.names mask = r.names other) ∧
    (∀ mask, (r.names mask).length = (List.range r.size).countP mask.bits.toNat.testBit) ∧
    ∀ (mask : TypeMask) (indices : List UInt8), (∀ i ∈ indices, i.toNat < 32) → ∀ j : UInt8,
      ((indices.foldl TypeMask.set mask).contains j = true ↔
        mask.bits.toNat.testBit j.toNat = true ∨ j ∈ indices) ∧
      (31 < j.toNat → (indices.foldl TypeMask.set mask).contains j = false) := by
  have numbered : r.Numbered := by
    rw [reached]
    exact TypeRegistry.numbered_empty.requestAll requests
  refine ⟨?_, fun m b => ?_, fun m => numbered.isEmpty_classify_iff, numbered.names_classify,
    numbered.names_eq, fun mask other alike => ?_, numbered.length_names,
    fun mask indices small j => ⟨?_, fun large => ?_⟩⟩
  · rw [reached, TypeRegistry.types_requestAll]
    simp [TypeRegistry.empty, TypeRegistry.size]
  · rw [numbered.contains_classify_iff]
    constructor
    · rintro ⟨t, place, accepted⟩
      obtain ⟨below, rfl⟩ := List.getElem?_eq_some_iff.mp place
      exact ⟨below, accepted⟩
    · rintro ⟨below, accepted⟩
      exact ⟨_, List.getElem?_eq_getElem below, accepted⟩
  · rw [numbered.names_eq mask, numbered.names_eq other,
      List.filter_congr fun i hi => alike i (List.mem_range.mp hi)]
  · rw [TypeMask.contains_foldl_set small, TypeMask.contains_eq]
  · rw [TypeMask.contains_eq, TypeMask.testBit_of_le large]

/-- A registry of three types, two of them of one name. -/
def threeTypes : TypeRegistry :=
  TypeRegistry.empty.requestAll [("codec", PluginType.requiresSymbol "a"),
    ("tap", PluginType.requiresSymbol "b"), ("codec", fun m => m.exports "a" || m.exports "c")]

/-- A module that exports `a` is of the two types named `codec`. A mask with the bit of `tap` and one
    that no type has is named by `tap`, and setting bit 31, bit 0 and bit 31 again sets both. -/
theorem mask_and_names_threeTypes :
    threeTypes.names (threeTypes.classify ⟨Path.ofString "x.mod", [("a", none)]⟩) =
      ["codec", "codec"] ∧
    threeTypes.names ⟨0x80000002⟩ = threeTypes.names ⟨2⟩ ∧
    (threeTypes.names ⟨0x80000002⟩).length = 1 ∧
    (∀ i ∈ ([31, 0, 31] : List UInt8), i.toNat < 32) ∧
    ([31, 0, 31].foldl TypeMask.set ⟨2⟩).contains 31 = true ∧
    ([31, 0, 31].foldl TypeMask.set ⟨2⟩).contains 32 = false := by
  have small : ∀ i ∈ ([31, 0, 31] : List UInt8), i.toNat < 32 := by simp
  have size : threeTypes.size = 3 := rfl
  obtain ⟨-, -, -, accepting, -, alike, count, marked⟩ := mask_and_names _ threeTypes rfl
  refine ⟨?_, alike _ _ ?_, ?_, small, ?_, ?_⟩
  · rw [accepting]
    decide
  · rw [size]
    decide
  · rw [count, size]
    decide
  · exact ((marked ⟨2⟩ _ small 31).1).mpr (Or.inr (by decide))
  · exact (marked ⟨2⟩ _ small 32).2 (by decide)

end PluginDiscovery
