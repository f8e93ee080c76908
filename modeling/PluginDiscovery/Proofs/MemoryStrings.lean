import Mathlib
import PluginDiscovery.Proofs.InvalidBytes
import PluginDiscovery.Proofs.VersionArray

/-!
# Strings in memory

A host hands names to the dynamic loader and reads strings out of modules, and both are bytes that end
at a zero. A name with a zero in it cannot be handed over; every other comes back as it was. Of a
string that a module exports only the bytes before the first zero count, and these need not be those
of a text: what is invalid there is shown as U+FFFD, each maximal invalid sequence as one.

* `Utf8.zero_mem_encode_iff`: the zero among the bytes is the zero among the characters;
* `Abi.symbolName?_eq_some_iff`: which names can be handed over;
* `Abi.cString_of_notMem`: what is read up to the first zero;
* `memory_strings`: all of it.
-/

namespace PluginDiscovery

theorem Utf8.zero_mem_encode_iff {s : String} : 0 ∈ encode s ↔ '\x00' ∈ s.toList := by
  rw [encode, List.mem_flatMap]
  constructor
  · rintro ⟨c, hc, zero⟩
    obtain rfl : c = '\x00' := by
      by_contra other
      exact zero_notMem_encodeChar other zero
    exact hc
  · exact fun zero => ⟨'\x00', zero, by decide⟩

namespace Abi

/-- A name can be handed over if no character of it is the zero. -/
theorem symbolName?_eq_some_iff {s : String} {name : Bytes} :
    symbolName? s = some name ↔ '\x00' ∉ s.toList ∧ name = Utf8.encode s ++ [0] := by
  rw [← Utf8.zero_mem_encode_iff]
  by_cases zero : 0 ∈ Utf8.encode s
  · simp [symbolName?, zero]
  · simp [symbolName?, zero, eq_comm]

/-- The bytes before the first zero are read, and nothing behind it. -/
theorem cString_of_notMem {before : Bytes} (h : 0 ∉ before) (after : Bytes) :
    cString (before ++ 0 :: after) = Utf8.lossy before := by
  have nonzero : ∀ b ∈ before, decide (b ≠ 0) = true := fun b hb =>
    decide_eq_true fun zero => h (zero ▸ hb)
  rw [cString, List.takeWhile_append_of_pos nonzero, List.takeWhile_cons_of_neg (by simp),
    List.append_nil]

end Abi

/-- **Names and strings pass through memory as texts.** A name can be handed over exactly if it has no
    zero in it, and what is read in its bytes, whatever follows them, is the name. What is read in any
    bytes with a zero depends on those before the first zero. If they are the bytes of a text, it is
    this text. In any case there is one way to cut them into characters and maximal invalid
    sequences, and what is read is the characters in their order, with one U+FFFD for each of
    these sequences; there are none exactly if the bytes are those of a text. -/
theorem memory_strings (s : String) (memory : Bytes) (terminated : 0 ∈ memory) :
    ((∃ name, Abi.symbolName? s = some name) ↔ '\x00' ∉ s.toList) ∧
    (∀ name, Abi.symbolName? s = some name → name = Utf8.encode s ++ [0] ∧
      ∀ after, Abi.cString? (some (name ++ after)) = some s) ∧
    ∃ before after, memory = before ++ 0 :: after ∧ 0 ∉ before ∧
      (∀ other, Abi.cString? (some (before ++ 0 :: other)) = Abi.cString? (some memory)) ∧
      (∀ text, Utf8.encode text = before → Abi.cString? (some memory) = some text) ∧
      ∃ cs, Utf8.Cut before cs ∧ (∀ ds, Utf8.Cut before ds → ds = cs) ∧
        Abi.cString? (some memory) = some (String.ofList (cs.map Utf8.Chunk.shown)) ∧
        ((∃ text, Utf8.encode text = before) ↔ ∀ bytes, .bad bytes ∉ cs) := by
  obtain ⟨before, after, split, unread⟩ : ∃ before after, memory = before ++ 0 :: after ∧ 0 ∉ before :=
    List.eq_append_cons_of_mem terminated
  have read (other : Bytes) :
      Abi.cString? (some (before ++ 0 :: other)) = some (Utf8.lossy before) :=
    congrArg some (Abi.cString_of_notMem unread other)
  refine ⟨?_, fun name given => ?_, before, after, split, unread, fun other => ?_,
    fun text encoded => ?_, Utf8.chunks before, Utf8.cut_iff.mpr rfl, fun ds => Utf8.cut_iff.mp, ?_,
    Utf8.exists_encode_iff⟩
  · simp only [Abi.symbolName?_eq_some_iff, exists_and_left, exists_eq, and_true]
  · obtain ⟨zeroless, rfl⟩ := Abi.symbolName?_eq_some_iff.mp given
    refine ⟨rfl, fun after => ?_⟩
    rw [Abi.cString?, Option.map_some, List.append_assoc, List.singleton_append,
      Abi.cString_of_notMem (mt Utf8.zero_mem_encode_iff.mp zeroless), Utf8.lossy_encode]
  · rw [split, read, read]
  · rw [split, read, ← encoded, Utf8.lossy_encode]
  · rw [split, read, Utf8.lossy]

/-- A character of three bytes that ends after two is shown as one U+FFFD, and the byte behind the
    zero is not read. -/
theorem memory_strings_truncated :
    (∃ name, Abi.symbolName? "version" = some name ∧ Abi.cString? (some name) = some "version") ∧
    0 ∈ ([0x31, 0xE6, 0xBC, 0, 0x41] : Bytes) ∧
    Utf8.Cut [0x31, 0xE6, 0xBC] [.char '1', .bad [0xE6, 0xBC]] ∧
    Abi.cString? (some [0x31, 0xE6, 0xBC, 0, 0x41]) = some "1\uFFFD" := by
  have terminated : 0 ∈ ([0x31, 0xE6, 0xBC, 0, 0x41] : Bytes) := by decide
  obtain ⟨given, named, before, after, split, -, -, -, cs, cut, -, shown, -⟩ :=
    memory_strings "version" [0x31, 0xE6, 0xBC, 0, 0x41] terminated
  obtain ⟨name, hname⟩ := given.mpr (by decide)
  have back := (named name hname).2 []
  rw [List.append_nil] at back
  have split : [0x31, 0xE6, 0xBC] ++ 0 :: [0x41] = before ++ 0 :: after := split
  obtain ⟨rfl, -, -⟩ :=
    (List.append_cons_inj_of_notMem (by decide) (by decide)).mp split
  obtain rfl : cs = [.char '1', .bad [0xE6, 0xBC]] := Utf8.cut_iff.mp cut
  exact ⟨⟨name, hname, back⟩, terminated, cut, shown⟩

end PluginDiscovery
