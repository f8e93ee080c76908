import Mathlib
import PluginDiscovery.Proofs.Utf8Encoding

/-!
# What is cut out of invalid bytes

The machine that cuts bytes into chunks never goes back. What it finds can be said without it: at
each place the character that stands there, and where no character stands the longest part of what
is there, which is bytes that a character begins with, or a single byte. There is only one such way
to cut bytes (`Cut.unique`), and it is the machine's (`cut_iff`).

While a character is open the machine has lost nothing of what it saw: it reads on as it would from
the first byte of the character (`Pending.Held.reads`). So what it does with an encoding, which is
known (`chunksFrom_encodeChar`), tells what the bytes it refuses are not: no character stands there,
and none begins with more of them (`maximalInvalid_of_refused`).
-/

namespace PluginDiscovery.Utf8

open String (utf8EncodeChar)

/-! ## 1. Cuts -/

/-- A single byte, or bytes that a character begins with. -/
def Part (bytes : Bytes) : Prop :=
  bytes.length = 1 ∨ ∃ c, bytes <+: utf8EncodeChar c

/-- Bytes in front of others are a maximal invalid sequence: no character stands there, and of what
    stands there they are the longest part. -/
structure MaximalInvalid (bytes rest : Bytes) : Prop where
  ne_nil : bytes ≠ []
  part : Part bytes
  no_char (c : Char) : ¬utf8EncodeChar c <+: bytes ++ rest
  longest (other : Bytes) : other <+: bytes ++ rest → Part other → other.length ≤ bytes.length

/-- Bytes cut into characters and, where no character stands, maximal invalid sequences. -/
inductive Cut : Bytes → List Chunk → Prop where
  | nil : Cut [] []
  | char (c : Char) {rest : Bytes} {cs : List Chunk} (cut : Cut rest cs) :
      Cut (utf8EncodeChar c ++ rest) (.char c :: cs)
  | bad {bytes rest : Bytes} {cs : List Chunk} (invalid : MaximalInvalid bytes rest)
      (cut : Cut rest cs) : Cut (bytes ++ rest) (.bad bytes :: cs)

/-- No character is encoded by the beginning of another one. -/
theorem encodeChar_append_inj {c d : Char} {rest rest' : Bytes}
    (same : utf8EncodeChar c ++ rest = utf8EncodeChar d ++ rest') : c = d ∧ rest = rest' := by
  have chunks : Chunk.char c :: chunksFrom none rest = .char d :: chunksFrom none rest' := by
    rw [← chunksFrom_encodeChar, ← chunksFrom_encodeChar, same]
  obtain rfl : c = d := Chunk.char.inj (List.cons.inj chunks).1
  exact ⟨rfl, List.append_cancel_left same⟩

theorem MaximalInvalid.append_inj {bytes bytes' rest rest' : Bytes}
    (h : MaximalInvalid bytes rest) (h' : MaximalInvalid bytes' rest')
    (same : bytes ++ rest = bytes' ++ rest') : bytes = bytes' ∧ rest = rest' := by
  have front : bytes <+: bytes' ++ rest' := same ▸ List.prefix_append bytes rest
  have front' : bytes' <+: bytes ++ rest := same ▸ List.prefix_append bytes' rest'
  exact List.append_inj same
    (Nat.le_antisymm (h'.longest bytes front h.part) (h.longest bytes' front' h'.part))

/-- **Bytes are cut in one way.** -/
theorem Cut.unique {bs : Bytes} {cs ds : List Chunk} (h : Cut bs cs) (k : Cut bs ds) : cs = ds := by
  induction h generalizing ds with
  | nil =>
    generalize same : ([] : Bytes) = bs at k
    cases k with
    | nil => rfl
    | char c _ =>
      exact absurd (List.append_eq_nil_iff.mp same.symm).1 String.utf8EncodeChar_ne_nil
    | bad invalid _ => exact absurd (List.append_eq_nil_iff.mp same.symm).1 invalid.ne_nil
  | @char c rest cs _ ih =>
    generalize same : utf8EncodeChar c ++ rest = bs at k
    cases k with
    | nil => exact absurd (List.append_eq_nil_iff.mp same).1 String.utf8EncodeChar_ne_nil
    | char d k =>
      obtain ⟨rfl, rfl⟩ := encodeChar_append_inj same
      rw [ih k]
    | bad invalid _ => exact absurd (same ▸ List.prefix_append _ rest) (invalid.no_char c)
  | @bad bytes rest cs invalid _ ih =>
    generalize same : bytes ++ rest = bs at k
    cases k with
    | nil => exact absurd (List.append_eq_nil_iff.mp same).1 invalid.ne_nil
    | char d _ => exact absurd (same ▸ List.prefix_append _ _) (invalid.no_char d)
    | bad invalid' k =>
      obtain ⟨rfl, rfl⟩ := invalid.append_inj invalid' same
      rw [ih k]

/-! ## 2. What is refused -/

/-- Bytes that the machine gives up, whatever follows the next one, are a maximal invalid
    sequence. -/
theorem maximalInvalid_of_refused {bytes rest : Bytes} (ne_nil : bytes ≠ []) (part : Part bytes)
    (refused : ∀ other : Bytes, other.head? = rest.head? →
      ∃ cs, chunks (bytes ++ other) = .bad bytes :: cs) : MaximalInvalid bytes rest := by
  refine ⟨ne_nil, part, fun c stands => ?_, fun other front part => ?_⟩
  · obtain ⟨after, split⟩ := stands
    obtain ⟨cs, given_up⟩ := refused rest rfl
    rw [← split, chunks, chunksFrom_encodeChar] at given_up
    cases given_up
  · by_contra longer
    rw [Nat.not_le] at longer
    obtain ⟨more, rfl⟩ :=
      List.prefix_of_prefix_length_le (List.prefix_append bytes rest) front longer.le
    rcases part with single | ⟨c, after, encoded⟩
    · have pos := List.length_pos_iff.mpr ne_nil
      omega
    · -- the next byte is the first of `more`, so a character would be given up with it
      have head : (more ++ after).head? = rest.head? := by
        obtain ⟨behind, split⟩ := front
        rw [List.append_assoc, List.append_cancel_left_eq] at split
        rw [← split]
        cases more with
        | nil => simp at longer
        | cons b more => rfl
      obtain ⟨cs, given_up⟩ := refused (more ++ after) head
      rw [← List.append_assoc, encoded, ← List.append_nil (utf8EncodeChar c), chunks,
        chunksFrom_encodeChar] at given_up
      cases given_up

/-! ## 3. The machine -/

/-- What holds of an open character: it can be ended, and the machine reads on as from its first
    byte. -/
structure Pending.Held (p : Pending) : Prop where
  opens : p.Opens
  range : p.low ≤ p.high
  ne_nil : p.seen ≠ []
  reads (rest : Bytes) : chunks (p.seen ++ rest) = chunksFrom (some p) rest

theorem leading_mul (n k : Nat) : leading (n * 64 ^ k) k = n := by
  induction k generalizing n with
  | zero => simp [leading]
  | succ k ih =>
    have regroup : n * 64 ^ (k + 1) = n * 64 * 64 ^ k := by
      rw [Nat.pow_succ, Nat.mul_comm (64 ^ k), Nat.mul_assoc]
    rw [leading, regroup, ih, Nat.mul_div_cancel n (by decide)]

/-- Some character begins with the bytes seen. -/
theorem Pending.Held.part {p : Pending} (h : p.Held) : Part p.seen := by
  obtain ⟨missing_pos, low_le, le_high, encodes⟩ := h.opens
  have range : p.low.toNat ≤ p.high.toNat := UInt8.le_iff_toNat_le.mp h.range
  obtain ⟨k, hk⟩ : ∃ k, p.missing = k + 1 := ⟨p.missing - 1, by omega⟩
  -- the character whose next byte is the lowest one let in, and whose others carry no bits
  let next := p.value * 64 + (p.low.toNat - 0x80)
  have lead : leading (next * 64 ^ k) k = next := leading_mul next k
  have byte : next % 64 + 0x80 = p.low.toNat := by
    show (p.value * 64 + (p.low.toNat - 0x80)) % 64 + 0x80 = p.low.toNat
    omega
  have value : next / 64 = p.value := by
    show (p.value * 64 + (p.low.toNat - 0x80)) / 64 = p.value
    omega
  refine Or.inr ⟨_, _, (encodes (next * 64 ^ k) ?_ ?_ ?_).symm⟩
  · rw [hk, leading, lead, value]
  · rw [hk, Nat.add_sub_cancel, lead, byte]
  · rw [hk, Nat.add_sub_cancel, lead, byte]
    exact range

/-- A byte taken after the bytes of an open character: it ends the character, or it continues it. -/
inductive Taken (seen : Bytes) (b : UInt8) : List Chunk × Option Pending → Prop where
  | ends (c : Char) (encoded : utf8EncodeChar c = seen ++ [b]) : Taken seen b ([.char c], none)
  | continues (q : Pending) (bytes : q.seen = seen ++ [b]) (held : q.Held) :
      Taken seen b ([], some q)

/-- What a first byte can be: a character, the beginning of one, or an invalid chunk of its own. -/
inductive Started (b : UInt8) : List Chunk × Option Pending → Prop where
  | char (c : Char) : Started b ([.char c], none)
  | opened (q : Pending) (range : q.low ≤ q.high) : Started b ([], some q)
  | refused : Started b ([.bad [b]], none)

theorem start_started (b : UInt8) : Started b (start b) := by
  have lead {low high : UInt8} (range : low ≤ high) {value missing : Nat} :
      Started b ([], some ⟨[b], value, missing, low, high⟩) :=
    .opened _ range
  unfold start
  refine iteInduction (fun _ => .char _) fun _ => iteInduction (fun _ => .refused) fun _ => ?_
  iterate 7 refine iteInduction (fun _ => lead (by decide)) fun _ => ?_
  exact .refused

/-- A first byte is taken, or it is an invalid chunk of its own. -/
theorem start_taken (b : UInt8) : Taken [] b (start b) ∨ start b = ([.bad [b]], none) := by
  have fed := start_fed b
  have started := start_started b
  generalize first : start b = result at fed started ⊢
  cases started with
  | char c =>
    cases fed with
    | ends _ encoded => exact Or.inl (.ends c encoded)
  | opened q range =>
    cases fed with
    | continues _ bytes opens =>
      refine Or.inl (.continues q bytes ⟨opens, range, ?_, fun rest => ?_⟩)
      · rw [bytes]
        exact List.cons_ne_nil b []
      · rw [bytes, List.nil_append, List.singleton_append, chunks, chunksFrom, feed, first]
        rfl
  | refused => exact Or.inr rfl

/-- A byte in the range is taken. -/
theorem Pending.Held.feed_taken {p : Pending} (h : p.Held) {b : UInt8}
    (range : p.low ≤ b ∧ b ≤ p.high) : Taken p.seen b (feed (some p) b) := by
  have fed : Fed p.seen b (feed (some p) b) :=
    feed_fed (fun q hq => Option.some.inj hq ▸ h.opens) b
  generalize next : feed (some p) b = result at fed
  cases fed with
  | ends c encoded => exact .ends c encoded
  | continues q bytes opens =>
    refine .continues q bytes ⟨opens, ?_, ?_, fun rest => ?_⟩
    · simp only [feed, if_pos range] at next
      split_ifs at next <;> cases next
      show (0x80 : UInt8) ≤ 0xBF
      decide
    · rw [bytes]
      exact List.append_ne_nil_of_right_ne_nil _ (List.cons_ne_nil b [])
    · rw [bytes, List.append_assoc, h.reads, List.singleton_append, chunksFrom, next]
      rfl
  | refuses bytes rest after =>
    simp only [feed, if_pos range] at next
    split_ifs at next <;> cases next

/-- A byte out of the range ends the open character as an invalid chunk and is read again. -/
theorem chunksFrom_of_not_range {p : Pending} {b : UInt8} (range : ¬(p.low ≤ b ∧ b ≤ p.high))
    (bs : Bytes) :
    chunksFrom (some p) (b :: bs) = .bad p.seen :: chunksFrom none (b :: bs) := by
  simp only [chunksFrom, feed, if_neg range, List.cons_append]

/-- A byte that is taken leaves what follows to be cut. -/
theorem Taken.cut {seen bs : Bytes} {b : UInt8} {result : List Chunk × Option Pending}
    (h : Taken seen b result)
    (ih : ∀ p : Option Pending, (∀ q, p = some q → q.Held) →
      Cut (seenBy p ++ bs) (chunksFrom p bs)) :
    Cut (seen ++ b :: bs) (result.1 ++ chunksFrom result.2 bs) := by
  have split : seen ++ b :: bs = seen ++ [b] ++ bs := by simp
  rw [split]
  cases h with
  | ends c encoded =>
    rw [← encoded]
    exact .char c (ih none (by simp))
  | continues q bytes held =>
    rw [← bytes]
    exact ih (some q) fun q' hq' => Option.some.inj hq' ▸ held

/-- **The machine cuts what it saw and what follows**, whatever character is open. -/
theorem cut_chunksFrom (bs : Bytes) : ∀ p : Option Pending, (∀ q, p = some q → q.Held) →
    Cut (seenBy p ++ bs) (chunksFrom p bs) := by
  induction bs with
  | nil =>
    intro p held
    cases p with
    | none => exact .nil
    | some p =>
      have held := held p rfl
      refine .bad (maximalInvalid_of_refused held.ne_nil held.part fun other head => ⟨[], ?_⟩) .nil
      rw [List.head?_eq_none_iff.mp head]
      exact held.reads []
  | cons b bs ih =>
    have first : Cut (b :: bs) (chunksFrom none (b :: bs)) := by
      rcases start_taken b with taken | refused
      · exact taken.cut ih
      · have given_up (other : Bytes) :
            chunksFrom none (b :: other) = .bad [b] :: chunksFrom none other := by
          rw [chunksFrom, feed, refused]
          rfl
        rw [given_up]
        exact .bad (maximalInvalid_of_refused (List.cons_ne_nil b []) (Or.inl rfl)
          fun other _ => ⟨_, given_up other⟩) (ih none (by simp))
    intro p held
    cases p with
    | none => exact first
    | some p =>
      have held := held p rfl
      by_cases range : p.low ≤ b ∧ b ≤ p.high
      · exact (held.feed_taken range).cut ih
      · rw [chunksFrom_of_not_range range]
        refine .bad (maximalInvalid_of_refused held.ne_nil held.part fun other head => ?_) first
        obtain ⟨more, rfl⟩ := List.head?_eq_some_iff.mp head
        exact ⟨_, (held.reads _).trans (chunksFrom_of_not_range range more)⟩

/-- **The cut of a byte string is the machine's.** -/
theorem cut_iff {bs : Bytes} {cs : List Chunk} : Cut bs cs ↔ cs = chunks bs := by
  have cut : Cut bs (chunks bs) := cut_chunksFrom bs none (by simp)
  constructor
  · exact fun h => h.unique cut
  · rintro rfl
    exact cut

/-- Bytes of which only characters are cut spell a text. -/
theorem Cut.exists_text {bs : Bytes} {cs : List Chunk} (h : Cut bs cs)
    (valid : ∀ bytes, .bad bytes ∉ cs) : ∃ text, encode text = bs := by
  induction h with
  | nil => exact ⟨"", rfl⟩
  | @char c rest cs _ ih =>
    obtain ⟨text, encoded⟩ := ih fun bytes hb => valid bytes (List.mem_cons_of_mem _ hb)
    refine ⟨String.ofList (c :: text.toList), ?_⟩
    rw [encode, String.toList_ofList, List.flatMap_cons, ← encoded, encode]
  | bad => exact absurd List.mem_cons_self (valid _)

/-- **Bytes spell a text if nothing invalid is cut out of them.** -/
theorem exists_encode_iff {bs : Bytes} :
    (∃ text, encode text = bs) ↔ ∀ bytes, .bad bytes ∉ chunks bs := by
  constructor
  · rintro ⟨text, rfl⟩ bytes invalid
    rw [chunks_encode] at invalid
    obtain ⟨c, -, same⟩ := List.mem_map.mp invalid
    cases same
  · exact (cut_iff.mpr rfl).exists_text

end PluginDiscovery.Utf8
