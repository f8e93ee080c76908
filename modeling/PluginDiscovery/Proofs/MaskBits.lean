import Mathlib
import PluginDiscovery.Engine.TypeRegistry

/-!
# Masks and the types in them

A type has the bit of its position in the registry (`Numbered`), and there are never more types than
bits. From that a mask can be read both ways:

* `TypeMask.contains_eq`, `contains_set`, `isEmpty_eq_false_iff`: a mask is the set of its bits;
* `TypeRegistry.requestAll`: the registry after requests for types, of which it may refuse some, and
  `types_requestAll`: what it has then;
* `TypeRegistry.contains_classify`: the bits of a module are those of the types that accept it;
* `TypeRegistry.names_of_isPrefix`: types registered later add no name to a mask.
-/

namespace PluginDiscovery

/-! ## 1. Bits -/

namespace TypeMask

variable {mask : TypeMask} {i j : UInt8}

theorem toNat_bit (h : i.toNat < 32) : ((1 : UInt32) <<< i.toUInt32).toNat = 2 ^ i.toNat := by
  have small : 2 ^ i.toNat < 2 ^ 32 := Nat.pow_lt_pow_right (by decide) h
  rw [UInt32.toNat_shiftLeft, UInt8.toNat_toUInt32, Nat.mod_eq_of_lt h, UInt32.toNat_one,
    Nat.one_shiftLeft, Nat.mod_eq_of_lt small]

/-- The number of a mask has no bit from 32 on. -/
theorem testBit_of_le {k : Nat} (h : 32 ≤ k) : mask.bits.toNat.testBit k = false :=
  Nat.testBit_lt_two_pow
    (Nat.lt_of_lt_of_le mask.bits.toNat_lt (Nat.pow_le_pow_right (by decide) h))

/-- A mask has the bits of its number. -/
theorem contains_eq : mask.contains i = mask.bits.toNat.testBit i.toNat := by
  rw [contains, show Abi.maxTypes = 32 from rfl]
  rcases Nat.lt_or_ge i.toNat 32 with small | large
  · have bit : ((mask.bits &&& (1 <<< i.toUInt32)) != 0) = mask.bits.toNat.testBit i.toNat := by
      rw [Bool.eq_iff_iff, bne_iff_ne, ne_eq, ← UInt32.toNat_inj, UInt32.toNat_and,
        toNat_bit small, Nat.and_two_pow]
      cases mask.bits.toNat.testBit i.toNat <;> simp
    rw [decide_eq_true small, Bool.true_and, bit]
  · rw [testBit_of_le large, decide_eq_false (Nat.not_lt.mpr large), Bool.false_and]

@[simp] theorem contains_empty : empty.contains i = false := by
  rw [contains_eq]
  exact Nat.zero_testBit i.toNat

theorem contains_set (h : i.toNat < 32) :
    (mask.set i).contains j = true ↔ mask.contains j = true ∨ i = j := by
  rw [contains_eq, contains_eq, set, UInt32.toNat_or, toNat_bit h, Nat.testBit_or,
    Bool.or_eq_true, Nat.testBit_two_pow, decide_eq_true_iff, UInt8.toNat_inj]

/-- A mask has the bits it had and those that were set in it, in whatever order. -/
theorem contains_foldl_set {indices : List UInt8} (small : ∀ i ∈ indices, i.toNat < 32)
    (mask : TypeMask) (j : UInt8) :
    (indices.foldl set mask).contains j = true ↔ mask.contains j = true ∨ j ∈ indices := by
  induction indices generalizing mask with
  | nil => simp
  | cons i rest ih =>
    rw [List.foldl_cons, ih (fun k hk => small k (List.mem_cons_of_mem i hk)),
      contains_set (small i List.mem_cons_self), or_assoc, List.mem_cons, eq_comm (a := j)]

/-- A mask that is not empty has a bit. -/
theorem isEmpty_eq_false_iff : mask.isEmpty = false ↔ ∃ i, mask.contains i = true := by
  constructor
  · intro h
    by_contra none
    have zero : mask.bits.toNat = 0 := by
      refine Nat.zero_of_testBit_eq_false fun k => ?_
      by_cases hk : k < 32
      · have small : (UInt8.ofNat k).toNat = k :=
          UInt8.toNat_ofNat_of_lt' (Nat.lt_trans hk (by decide))
        refine Bool.eq_false_iff.mpr fun bit => none ⟨UInt8.ofNat k, ?_⟩
        rw [contains_eq, small, bit]
      · exact testBit_of_le (Nat.le_of_not_lt hk)
    rw [isEmpty, UInt32.toNat_inj.mp (zero.trans UInt32.toNat_zero.symm)] at h
    cases h
  · rintro ⟨i, hi⟩
    rw [← Bool.not_eq_true]
    intro h
    rw [isEmpty_iff.mp h, contains_empty] at hi
    cases hi

end TypeMask

/-! ## 2. Numbered registries -/

namespace TypeRegistry

variable {r r' : TypeRegistry} {t : PluginType} {m : Module} {mask : TypeMask} {b : UInt8}

/-- A type has the bit of its position, and there are no more types than bits. -/
structure Numbered (r : TypeRegistry) : Prop where
  size_le : r.size ≤ Abi.maxTypes
  bit_eq (i : Nat) (t : PluginType) : r.types[i]? = some t → t.bit.toNat = i

theorem numbered_empty : empty.Numbered :=
  ⟨Nat.zero_le _, fun i t h => by simp [empty] at h⟩

/-- What a registration does to the registry: it adds a type with the next bit, or nothing. -/
theorem register_eq_ok_iff {name : String} {accepts : Module → Bool} :
    r.register name accepts = .ok (b, r') ↔
      r.size < Abi.maxTypes ∧ b = r.size.toUInt8 ∧ r'.types = r.types ++ [⟨name, b, accepts⟩] := by
  unfold register
  constructor
  · intro h
    split at h
    · cases h
    · rename_i room
      cases h
      exact ⟨Nat.lt_of_not_le room, rfl, rfl⟩
  · rintro ⟨room, rfl, htypes⟩
    obtain ⟨types⟩ := r'
    simp only at htypes
    rw [if_neg (Nat.not_le.mpr room), htypes]

theorem Numbered.register (h : r.Numbered) {name : String} {accepts : Module → Bool}
    (registered : r.register name accepts = .ok (b, r')) : r'.Numbered := by
  obtain ⟨room, rfl, htypes⟩ := register_eq_ok_iff.mp registered
  refine ⟨?_, fun i t ht => ?_⟩
  · rw [size, htypes, List.length_append]
    exact room
  · rw [htypes] at ht
    by_cases hi : i < r.types.length
    · rw [List.getElem?_append_left hi] at ht
      exact h.bit_eq i t ht
    · rw [List.getElem?_append_right (Nat.le_of_not_lt hi)] at ht
      obtain ⟨hpos, rfl⟩ := List.getElem?_eq_some_iff.mp ht
      have hlast : i = r.size := by
        simp only [List.length_singleton] at hpos
        rw [size]
        omega
      rw [show Abi.maxTypes = 32 from rfl] at room
      simp only [List.getElem_singleton]
      rw [hlast]
      exact UInt8.toNat_ofNat_of_lt' (Nat.lt_trans room (by decide))

/-- The registry after a request for a type: it has the type, or it refused it. -/
def request (r : TypeRegistry) (name : String) (accepts : Module → Bool) : TypeRegistry :=
  match r.register name accepts with
  | .ok (_, r') => r'
  | .error _ => r

/-- The registry after requests for types, each a name and a test. -/
def requestAll (r : TypeRegistry) (requests : List (String × (Module → Bool))) : TypeRegistry :=
  requests.foldl (fun r wanted => r.request wanted.1 wanted.2) r

theorem request_of_room (room : r.size < 32) (name : String) (accepts : Module → Bool) :
    r.request name accepts = ⟨r.types ++ [⟨name, r.size.toUInt8, accepts⟩]⟩ := by
  have room : ¬ Abi.maxTypes ≤ r.size := Nat.not_le.mpr room
  rw [request, TypeRegistry.register, if_neg room]

theorem request_of_full (full : 32 ≤ r.size) (name : String) (accepts : Module → Bool) :
    r.request name accepts = r := by
  have full : Abi.maxTypes ≤ r.size := full
  rw [request, TypeRegistry.register, if_pos full]

/-- A request leaves the earlier types in their places. -/
theorem isPrefix_request (r : TypeRegistry) (name : String) (accepts : Module → Bool) :
    r.types <+: (r.request name accepts).types := by
  rcases Nat.lt_or_ge r.size 32 with room | full
  · rw [request_of_room room]
    exact List.prefix_append _ _
  · rw [request_of_full full]

theorem Numbered.request (h : r.Numbered) (name : String) (accepts : Module → Bool) :
    (r.request name accepts).Numbered := by
  unfold TypeRegistry.request
  split
  · rename_i registered
    exact h.register registered
  · exact h

theorem Numbered.requestAll (h : r.Numbered) (requests : List (String × (Module → Bool))) :
    (r.requestAll requests).Numbered := by
  induction requests generalizing r with
  | nil => exact h
  | cons wanted rest ih => exact ih (h.request wanted.1 wanted.2)

/-- **Requests are granted in their order as long as there are bits left**, each with the bit of its
    place. -/
theorem types_requestAll (r : TypeRegistry) (requests : List (String × (Module → Bool))) :
    (r.requestAll requests).types = r.types ++
      (requests.take (32 - r.size)).mapIdx fun i wanted =>
        ⟨wanted.1, (r.size + i).toUInt8, wanted.2⟩ := by
  induction requests generalizing r with
  | nil => simp [requestAll]
  | cons wanted rest ih =>
    have step : r.requestAll (wanted :: rest) = (r.request wanted.1 wanted.2).requestAll rest := rfl
    rcases Nat.lt_or_ge r.size 32 with room | full
    · have left : 32 - r.size = 32 - (r.size + 1) + 1 := by omega
      have grown : (r.request wanted.1 wanted.2).size = r.size + 1 := by
        rw [request_of_room room]
        exact List.length_append
      rw [step, ih, grown, request_of_room room, left, List.take_succ_cons, List.mapIdx_cons,
        List.append_assoc]
      simp only [List.singleton_append, Nat.add_zero, Nat.add_assoc, Nat.add_comm 1]
    · have none : 32 - r.size = 0 := Nat.sub_eq_zero_of_le full
      rw [step, ih, request_of_full full, none, List.take_zero, List.take_zero]

theorem Numbered.bit_lt (h : r.Numbered) (ht : t ∈ r.types) : t.bit.toNat < 32 := by
  obtain ⟨i, hi, rfl⟩ := List.mem_iff_getElem.mp ht
  rw [h.bit_eq i _ (List.getElem?_eq_getElem hi)]
  exact Nat.lt_of_lt_of_le hi h.size_le

/-! ## 3. Classification -/

/-- **A module has the bits of the types that accept it.** -/
theorem contains_classify (h : r.Numbered) :
    (r.classify m).contains b = true ↔ ∃ t ∈ r.types, t.bit = b ∧ t.accepts m = true := by
  have fold : ∀ (types : List PluginType) (mask : TypeMask), (∀ t ∈ types, t.bit.toNat < 32) →
      ((types.foldl (fun mask t => if t.accepts m then mask.set t.bit else mask)
          mask).contains b = true ↔
        mask.contains b = true ∨ ∃ t ∈ types, t.bit = b ∧ t.accepts m = true) := by
    intro types
    induction types with
    | nil => simp
    | cons t rest ih =>
      intro mask small
      rw [List.foldl_cons, ih _ fun u hu => small u (List.mem_cons_of_mem t hu)]
      cases accepted : t.accepts m with
      | false => simp [accepted]
      | true =>
        rw [if_pos rfl, TypeMask.contains_set (small t List.mem_cons_self), or_assoc]
        simp [accepted]
  rw [classify, fold r.types .empty fun t ht => h.bit_lt ht, TypeMask.contains_empty]
  simp

/-! ## 4. Names -/

theorem mem_names {name : String} :
    name ∈ r.names mask ↔ ∃ t ∈ r.types, mask.contains t.bit = true ∧ t.name = name := by
  simp [names, and_assoc]

/-- A module that some type accepts has the name of a type. -/
theorem names_classify_ne_nil (h : r.Numbered) (claimed : (r.classify m).isEmpty = false) :
    r.names (r.classify m) ≠ [] := by
  obtain ⟨b, hb⟩ := TypeMask.isEmpty_eq_false_iff.mp claimed
  obtain ⟨t, ht, rfl, _⟩ := (contains_classify h).mp hb
  exact List.ne_nil_of_mem (mem_names.mpr ⟨t, ht, hb, rfl⟩)

/-- Types registered later add no name to a mask whose bits all have their type. -/
theorem names_of_isPrefix (grown : r.types <+: r'.types) (numbered : r'.Numbered)
    (typed : ∀ b, mask.contains b = true → ∃ t ∈ r.types, t.bit = b) :
    r'.names mask = r.names mask := by
  obtain ⟨new, hnew⟩ := grown
  have unseen : new.filter (fun t => mask.contains t.bit) = [] := by
    refine List.filter_eq_nil_iff.mpr fun t ht hbit => ?_
    obtain ⟨u, hu, hub⟩ := typed t.bit hbit
    obtain ⟨i, hi⟩ := List.mem_iff_getElem?.mp hu
    obtain ⟨j, hj⟩ := List.mem_iff_getElem?.mp ht
    have hlt : i < r.types.length := (List.getElem?_eq_some_iff.mp hi).1
    have old := numbered.bit_eq i u (by rw [← hnew, List.getElem?_append_left hlt, hi])
    have added := numbered.bit_eq (r.types.length + j) t (by
      rw [← hnew, List.getElem?_append_right (by omega), Nat.add_sub_cancel_left, hj])
    rw [hub] at old
    omega
  rw [names, names, ← hnew, List.filter_append, unseen, List.append_nil]

end TypeRegistry

end PluginDiscovery
