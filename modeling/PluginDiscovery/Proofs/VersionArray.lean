import Mathlib
import PluginDiscovery.Abi
import PluginDiscovery.Proofs.Utf8Encoding

/-!
# The version a plugin exports

A plugin exports its version as an array: the bytes of the text, and a zero. A host that does not
know where the array ends reads it from memory up to the first zero. Both sides agree on every text
without a zero in it, and of any other text the host sees the part before its first zero.

* `Utf8.zero_notMem_encodeChar`: the zero is the only character with a zero among its bytes, and
  `Utf8.takeWhile_encode`: so the bytes before the first zero are a text again;
* `Abi.CopiedBelow`: how far the copying of bytes has come; `CopiedBelow.set` is a step of it, and
  `copyFrom_eq` says that it comes to the end;
* `Abi.nulTerminated_eq_ok_iff`, `Abi.nulTerminated_eq_error_iff`: which arrays are built, and what
  is said about the others;
* `Abi.cString_terminated`: what a host reads in an array;
* `version_array`: all of it.
-/

namespace PluginDiscovery

/-! ## 1. Zeros in an encoding -/

namespace Utf8

open String (utf8EncodeChar)

theorem zero_notMem_continuation (v k : Nat) : (0 : UInt8) ∉ continuation v k := by
  induction k with
  | zero => exact List.not_mem_nil
  | succ k ih =>
    have byte : (UInt8.ofNat (leading v k % 64 + 0x80)).toNat = leading v k % 64 + 0x80 :=
      UInt8.toNat_ofNat_of_lt' (by show _ < 256; omega)
    rw [continuation, List.mem_cons, not_or]
    refine ⟨fun zero => ?_, ih⟩
    rw [← zero] at byte
    simp at byte

/-- No character but the zero has a zero among its bytes. -/
theorem zero_notMem_encodeChar {c : Char} (h : c ≠ '\x00') : (0 : UInt8) ∉ utf8EncodeChar c := by
  obtain ⟨v, valid, rfl⟩ : ∃ v : Nat, v.isValidChar ∧ Char.ofNat v = c :=
    ⟨c.toNat, c.valid, c.ofNat_toNat⟩
  have large : v < 0x110000 := by
    rcases valid with valid | valid <;> omega
  have bytes {n : Nat} (k : Nat) (h1 : n < 256) (h2 : 0 < n) :
      (0 : UInt8) ∉ UInt8.ofNat n :: continuation v k := by
    have number : (UInt8.ofNat n).toNat = n := UInt8.toNat_ofNat_of_lt' h1
    rw [List.mem_cons, not_or]
    refine ⟨fun zero => ?_, zero_notMem_continuation v k⟩
    rw [← zero] at number
    exact absurd number.symm (Nat.ne_of_gt h2)
  by_cases one : v ≤ 0x7F
  · have pos : 0 < v := Nat.pos_of_ne_zero fun zero => h (by rw [zero])
    rw [encodeChar_one one]
    exact bytes 0 (by omega) pos
  · by_cases two : v < 0x800
    · rw [encodeChar_two (by omega) two]
      exact bytes 1 (by omega) (by omega)
    · by_cases three : v < 0x10000
      · rw [encodeChar_three valid (by omega) three]
        exact bytes 2 (by omega) (by omega)
      · rw [encodeChar_four valid (by omega)]
        exact bytes 3 (by omega) (by omega)

/-- The bytes before the first zero spell the characters before the first zero. -/
theorem takeWhile_encode (s : String) (after : Bytes) :
    (encode s ++ 0 :: after).takeWhile (· ≠ 0) =
      encode (String.ofList (s.toList.takeWhile (· ≠ '\x00'))) := by
  rw [encode, encode, String.toList_ofList]
  induction s.toList with
  | nil => simp
  | cons c rest ih =>
    rw [List.flatMap_cons, List.append_assoc]
    by_cases zero : c = '\x00'
    · have bytes : utf8EncodeChar c = [0] := by
        rw [zero]
        rfl
      rw [bytes, List.singleton_append, List.takeWhile_cons_of_neg (by simp),
        List.takeWhile_cons_of_neg (by simpa using zero), List.flatMap_nil]
    · have nonzero : ∀ b ∈ utf8EncodeChar c, decide (b ≠ 0) = true := fun b hb =>
        decide_eq_true fun hzero => zero_notMem_encodeChar zero (hzero ▸ hb)
      rw [List.takeWhile_append_of_pos nonzero, ih, List.takeWhile_cons_of_pos (by simpa using zero),
        List.flatMap_cons]

end Utf8

/-! ## 2. Arrays -/

namespace Abi

section Copy

variable {bytes out : Bytes} {i : Nat}

/-- The array has the bytes below an index. -/
structure CopiedBelow (bytes : Bytes) (i : Nat) (out : Bytes) : Prop where
  fits : out.length = bytes.length
  copied : ∀ j < i, out[j]? = bytes[j]?

theorem copiedBelow_zero (fits : out.length = bytes.length) : CopiedBelow bytes 0 out :=
  ⟨fits, fun _ h => absurd h (Nat.not_lt_zero _)⟩

/-- A step puts one byte more into the array. -/
theorem CopiedBelow.set (c : CopiedBelow bytes i out) (inside : i < bytes.length) :
    CopiedBelow bytes (i + 1) (out.set i bytes[i]) := by
  refine ⟨List.length_set.trans c.fits, fun j below => ?_⟩
  rcases Nat.lt_succ_iff_lt_or_eq.mp below with before | rfl
  · rw [List.getElem?_set_ne (Nat.ne_of_gt before), c.copied j before]
  · rw [List.getElem?_set_self (c.fits ▸ inside), List.getElem?_eq_getElem inside]

/-- An array that has all bytes is what was to be copied. -/
theorem CopiedBelow.eq (c : CopiedBelow bytes i out) (all : bytes.length ≤ i) : out = bytes := by
  refine List.ext_getElem? fun j => ?_
  rcases Nat.lt_or_ge j i with below | above
  · exact c.copied j below
  · rw [List.getElem?_eq_none (c.fits ▸ Nat.le_trans all above),
      List.getElem?_eq_none (Nat.le_trans all above)]

/-- **The copying comes to the end**, with the bytes that were to be copied. -/
theorem copyFrom_eq (fits : out.length = bytes.length) (c : CopiedBelow bytes i out) :
    copyFrom bytes out fits i = bytes := by
  fun_induction copyFrom bytes out fits i with
  | case1 out fits i inside within ih => exact ih (c.set within)
  | case2 out fits i outside => exact c.eq (c.fits ▸ Nat.not_lt.mp outside)

end Copy

variable {size : Nat} {s : String} {array : Bytes}

/-- An array of a text that passes the examination holds the bytes of the text. -/
theorem nulTerminated_eq (size : Nat) (s : String) :
    nulTerminated size s =
      if (Utf8.encode s).length = size then
        if (Utf8.encode s).getLast? = some 0 then .ok (Utf8.encode s) else .error .missingTerminator
      else .error .lengthMismatch := by
  simp only [nulTerminated]
  by_cases fits : (Utf8.encode s).length = size
  · have last : (0 < size ∧ (Utf8.encode s)[size - 1]? = some 0) ↔
        (Utf8.encode s).getLast? = some 0 := by
      rw [List.getLast?_eq_getElem?, fits, and_iff_right_iff_imp]
      intro zero
      obtain ⟨inside, -⟩ := List.getElem?_eq_some_iff.mp zero
      omega
    have zeros : (List.replicate size (0 : UInt8)).length = (Utf8.encode s).length :=
      List.length_replicate.trans fits.symm
    rw [dif_pos fits, if_pos fits, copyFrom_eq zeros (copiedBelow_zero zeros)]
    simp only [last]
  · rw [dif_neg fits, if_neg fits]

/-- An array is built of a text that fits and ends in a zero, and holds its bytes. -/
theorem nulTerminated_eq_ok_iff :
    nulTerminated size s = .ok array ↔
      (Utf8.encode s).length = size ∧ (Utf8.encode s).getLast? = some 0 ∧
        array = Utf8.encode s := by
  rw [nulTerminated_eq]
  split_ifs with length terminator
  · simp [length, terminator, eq_comm]
  · simp [terminator]
  · simp [length]

/-- A text of another size is refused for its size, and one that fits for the missing zero. -/
theorem nulTerminated_eq_error_iff {fault : ArrayFault} :
    nulTerminated size s = .error fault ↔
      match fault with
      | .lengthMismatch => (Utf8.encode s).length ≠ size
      | .missingTerminator =>
        (Utf8.encode s).length = size ∧ (Utf8.encode s).getLast? ≠ some 0 := by
  rw [nulTerminated_eq]
  split_ifs with length terminator
  · cases fault <;> simp [length, terminator]
  · cases fault <;> simp [length, terminator]
  · cases fault <;> simp [length]

/-- **A host reads the part of the text before its first zero**, whatever follows the array. -/
theorem cString_terminated (v : String) (after : Bytes) :
    cString (Utf8.encode v ++ 0 :: after) =
      String.ofList (v.toList.takeWhile (· ≠ '\x00')) := by
  rw [cString, Utf8.takeWhile_encode, Utf8.lossy_encode]

end Abi

/-- **A version comes back from the array it was put into.** Of every text and a zero an array is
    built, of the bytes of the text and the zero, and this is what a plugin exports for it. What a
    host reads there, whatever follows in memory, is the part of the text before its first zero, and
    so the text itself exactly if it has no zero. No array is built of a text of another size than the
    array, in an empty array, and of a text that does not end in a zero; every other array holds at
    each index the byte of the text. -/
theorem version_array (v s : String) (size : Nat) :
    (∃ array, Abi.nulTerminated ((Utf8.encode v).length + 1) (v ++ "\x00") = .ok array ∧
      Abi.pluginVersion v = .ok array ∧ array = Utf8.encode v ++ [0] ∧
      ∀ after,
        Abi.cString? (some (array ++ after)) =
          some (String.ofList (v.toList.takeWhile (· ≠ '\x00'))) ∧
        (Abi.cString? (some (array ++ after)) = some v ↔ '\x00' ∉ v.toList)) ∧
    ((∃ fault, Abi.nulTerminated size s = .error fault) ↔
      (Utf8.encode s).length ≠ size ∨ size = 0 ∨ (Utf8.encode s).getLast? ≠ some 0) ∧
    ∀ array : Bytes, Abi.nulTerminated size s = .ok array →
      array.length = size ∧ ∀ i : Nat, array[i]? = (Utf8.encode s)[i]? := by
  have terminated : Utf8.encode (v ++ "\x00") = Utf8.encode v ++ [0] := by
    rw [Utf8.encode, String.toList_append, List.flatMap_append]
    rfl
  refine ⟨⟨Utf8.encode v ++ [0], ?_, ?_, rfl, fun after => ?_⟩, ?_, fun array built => ?_⟩
  · rw [Abi.nulTerminated_eq_ok_iff, terminated]
    exact ⟨List.length_append, List.getLast?_concat, rfl⟩
  · rw [Abi.pluginVersion, Abi.nulTerminated_eq_ok_iff, terminated]
    exact ⟨rfl, List.getLast?_concat, rfl⟩
  · have read : Abi.cString? (some (Utf8.encode v ++ [0] ++ after)) =
        some (String.ofList (v.toList.takeWhile (· ≠ '\x00'))) := by
      rw [Abi.cString?, Option.map_some, List.append_assoc, List.singleton_append,
        Abi.cString_terminated]
    refine ⟨read, ?_⟩
    rw [read, Option.some.injEq, String.ofList_eq, List.takeWhile_eq_self_iff]
    exact ⟨fun all zero => absurd (all _ zero) (by decide), fun none c hc =>
      decide_eq_true fun zero => none (zero ▸ hc)⟩
  · constructor
    · rintro ⟨fault, refused⟩
      rw [Abi.nulTerminated_eq_error_iff] at refused
      cases fault with
      | lengthMismatch => exact Or.inl refused
      | missingTerminator => exact Or.inr (Or.inr refused.2)
    · intro unfit
      by_cases length : (Utf8.encode s).length = size
      · -- an empty array has no last byte, so it is one of those that do not end in a zero
        have unterminated : (Utf8.encode s).getLast? ≠ some 0 := by
          rcases unfit with other | empty | unterminated
          · exact absurd length other
          · rw [List.length_eq_zero_iff.mp (length.trans empty)]
            simp
          · exact unterminated
        exact ⟨.missingTerminator, Abi.nulTerminated_eq_error_iff.mpr ⟨length, unterminated⟩⟩
      · exact ⟨.lengthMismatch, Abi.nulTerminated_eq_error_iff.mpr length⟩
  · obtain ⟨length, _, rfl⟩ := Abi.nulTerminated_eq_ok_iff.mp built
    exact ⟨length, fun _ => rfl⟩

end PluginDiscovery
