import Mathlib
import PluginDiscovery.FileTree.Path

/-!
# Valid bytes spell their text

A text that bytes decode to encodes to the same bytes again: `encode_of_decode?`. So a file name is
determined by the name of its plugin, and a path can be read off a text. Two texts never have the
same bytes (`encode_injective`), so names in byte order are in one order only.

The machine that cuts bytes into characters holds the beginning of a character between two bytes.
The invariant (`Pending.Opens`) says what that beginning is good for: whichever continuation bytes
the machine still lets in, the bytes seen and these are the encoding of the character they carry.

The other way round the machine cuts an encoding into the characters of its text
(`chunks_encode`), so decoding is the inverse of encoding (`decode?_eq_some_iff`) and nothing is
replaced in valid bytes (`lossy_encode`). Here the machine awaits the rest of a given character
(`Pending.Awaits`).
-/

namespace PluginDiscovery.Utf8

open String (utf8EncodeChar)

/-! ## 1. Characters -/

theorem toNat_ofNat {v : Nat} (h : v.isValidChar) : (Char.ofNat v).val.toNat = v := by
  simp only [Char.ofNat, h, dif_pos]
  rfl

/-- The number `v` without what its last `k` continuation bytes carry. -/
def leading (v : Nat) : Nat → Nat
  | 0 => v
  | k + 1 => leading v k / 64

/-- The last `k` continuation bytes of the character with the number `v`. -/
def continuation (v : Nat) : Nat → Bytes
  | 0 => []
  | k + 1 => UInt8.ofNat (leading v k % 64 + 0x80) :: continuation v k

theorem encodeChar_two {v : Nat} (h1 : 0x80 ≤ v) (h2 : v < 0x800) :
    utf8EncodeChar (Char.ofNat v) = UInt8.ofNat (v / 64 + 0xC0) :: continuation v 1 := by
  have hv : v.isValidChar := Or.inl (by omega)
  have e : v / 64 % 0x20 = v / 64 := by omega
  simp only [utf8EncodeChar, toNat_ofNat hv, continuation, if_neg (show ¬ v ≤ 0x7F by omega),
    if_pos (show v ≤ 0x7FF by omega), e, leading]

theorem encodeChar_three {v : Nat} (hv : v.isValidChar) (h1 : 0x800 ≤ v) (h2 : v < 0x10000) :
    utf8EncodeChar (Char.ofNat v) = UInt8.ofNat (v / 4096 + 0xE0) :: continuation v 2 := by
  have e : v / 4096 % 0x10 = v / 4096 := by omega
  simp only [utf8EncodeChar, toNat_ofNat hv, continuation, if_neg (show ¬ v ≤ 0x7F by omega),
    if_neg (show ¬ v ≤ 0x7FF by omega), if_pos (show v ≤ 0xFFFF by omega), e, leading]

theorem encodeChar_four {v : Nat} (hv : v.isValidChar) (h : 0x10000 ≤ v) :
    utf8EncodeChar (Char.ofNat v) = UInt8.ofNat (v / 262144 + 0xF0) :: continuation v 3 := by
  have hlt : v < 0x110000 := by
    rcases hv with hv | hv <;> omega
  have e : v / 262144 % 0x08 = v / 262144 := by omega
  have e2 : v / 64 / 64 = v / 4096 := by omega
  simp only [utf8EncodeChar, toNat_ofNat hv, continuation, if_neg (show ¬ v ≤ 0x7F by omega),
    if_neg (show ¬ v ≤ 0x7FF by omega), if_neg (show ¬ v ≤ 0xFFFF by omega), e, leading, e2]

/-! ## 2. The beginning of a character -/

/-- A continuation byte is awaited, and every number that continues what was seen, its next byte in
    the range, is that of a character whose encoding begins with the bytes seen. -/
structure Pending.Opens (p : Pending) : Prop where
  missing_pos : 0 < p.missing
  low_le : 0x80 ≤ p.low.toNat
  le_high : p.high.toNat ≤ 0xBF
  encodes (v : Nat) : leading v p.missing = p.value →
    p.low.toNat ≤ leading v (p.missing - 1) % 64 + 0x80 →
    leading v (p.missing - 1) % 64 + 0x80 ≤ p.high.toNat →
    utf8EncodeChar (Char.ofNat v) = p.seen ++ continuation v p.missing

/-- The bytes of the character that is open. -/
def seenBy : Option Pending → Bytes
  | none => []
  | some p => p.seen

theorem ofNat_of_toNat {b : UInt8} {n : Nat} (h : n = b.toNat) : UInt8.ofNat n = b := by
  rw [h]
  exact UInt8.ofNat_toNat

/-- The lead byte of a two-byte character. -/
theorem opens_two {b : UInt8} (h1 : 0xC2 ≤ b.toNat) (h2 : b.toNat ≤ 0xDF) :
    Pending.Opens ⟨[b], b.toNat - 0xC0, 1, 0x80, 0xBF⟩ := by
  refine ⟨Nat.succ_pos _, Nat.le_refl _, Nat.le_refl _, fun v hv _ _ => ?_⟩
  simp only [leading] at hv
  rw [encodeChar_two (by omega) (by omega), ofNat_of_toNat (b := b) (by omega)]
  rfl

/-- The lead byte of a three-byte character, whose next byte keeps the number from being too small
    or a surrogate. -/
theorem opens_three {b low high : UInt8} (h1 : 0xE0 ≤ b.toNat) (h2 : b.toNat ≤ 0xEF)
    (hlow : 0x80 ≤ low.toNat) (hhigh : high.toNat ≤ 0xBF)
    (small : b.toNat = 0xE0 → 0xA0 ≤ low.toNat)
    (surrogate : b.toNat = 0xED → high.toNat ≤ 0x9F) :
    Pending.Opens ⟨[b], b.toNat - 0xE0, 2, low, high⟩ := by
  refine ⟨Nat.succ_pos _, hlow, hhigh, fun v hv hl hh => ?_⟩
  simp only [leading, Nat.reduceSub] at hv hl hh
  have valid : v.isValidChar := by
    by_cases hb : b.toNat ≤ 0xED
    · exact Or.inl (by omega)
    · exact Or.inr ⟨by omega, by omega⟩
  rw [encodeChar_three valid (by omega) (by omega), ofNat_of_toNat (b := b) (by omega)]
  rfl

/-- The lead byte of a four-byte character, whose next byte keeps the number from being too small or
    too large. -/
theorem opens_four {b low high : UInt8} (h1 : 0xF0 ≤ b.toNat) (h2 : b.toNat ≤ 0xF4)
    (hlow : 0x80 ≤ low.toNat) (hhigh : high.toNat ≤ 0xBF)
    (small : b.toNat = 0xF0 → 0x90 ≤ low.toNat)
    (large : b.toNat = 0xF4 → high.toNat ≤ 0x8F) :
    Pending.Opens ⟨[b], b.toNat - 0xF0, 3, low, high⟩ := by
  refine ⟨Nat.succ_pos _, hlow, hhigh, fun v hv hl hh => ?_⟩
  simp only [leading, Nat.reduceSub] at hv hl hh
  have valid : v.isValidChar := Or.inr ⟨by omega, by omega⟩
  rw [encodeChar_four valid (by omega), ofNat_of_toNat (b := b) (by omega)]
  rfl

/-! ## 3. One byte -/

/-- What a byte does after the bytes of an open character: it ends the character, it continues it,
    or it shows that the bytes are invalid. -/
inductive Fed (seen : Bytes) (b : UInt8) : List Chunk × Option Pending → Prop where
  | ends (c : Char) (encoded : utf8EncodeChar c = seen ++ [b]) : Fed seen b ([.char c], none)
  | continues (q : Pending) (bytes : q.seen = seen ++ [b]) (opens : q.Opens) :
      Fed seen b ([], some q)
  | refuses (bytes : Bytes) (rest : List Chunk) (next : Option Pending) :
      Fed seen b (.bad bytes :: rest, next)

theorem start_fed (b : UInt8) : Fed [] b (start b) := by
  unfold start
  split_ifs with h1 h2 h3 h4 h5 h6 h7 h8 h9 <;>
    simp only [UInt8.le_iff_toNat_le, UInt8.lt_iff_toNat_lt, ← UInt8.toNat_inj,
      UInt8.reduceToNat] at *
  · have valid : b.toNat.isValidChar := Or.inl (by omega)
    refine .ends _ ?_
    simp only [utf8EncodeChar, toNat_ofNat valid, if_pos h1, UInt8.ofNat_toNat, List.nil_append]
  · exact .refuses _ _ _
  · exact .continues _ rfl (opens_two (by omega) (by omega))
  · have opens : Pending.Opens ⟨[b], b.toNat - 0xE0, 2, 0xA0, 0xBF⟩ :=
      opens_three (by omega) (by omega) (by decide) (by decide) (fun _ => by decide)
        (fun h => by omega)
    rw [h4] at opens
    exact .continues _ rfl opens
  · have opens : Pending.Opens ⟨[b], b.toNat - 0xE0, 2, 0x80, 0x9F⟩ :=
      opens_three (by omega) (by omega) (by decide) (by decide) (fun h => by omega)
        (fun _ => by decide)
    rw [h5] at opens
    exact .continues _ rfl opens
  · exact .continues _ rfl (opens_three (by omega) (by omega) (by decide) (by decide)
      (fun h => absurd h h4) (fun h => absurd h h5))
  · have opens : Pending.Opens ⟨[b], b.toNat - 0xF0, 3, 0x90, 0xBF⟩ :=
      opens_four (by omega) (by omega) (by decide) (by decide) (fun _ => by decide)
        (fun h => by omega)
    rw [h7] at opens
    exact .continues _ rfl opens
  · exact .continues _ rfl (opens_four (by omega) (by omega) (by decide) (by decide)
      (fun h => absurd h h7) (fun h => by omega))
  · have opens : Pending.Opens ⟨[b], b.toNat - 0xF0, 3, 0x80, 0x8F⟩ :=
      opens_four (by omega) (by omega) (by decide) (by decide) (fun h => by omega)
        (fun _ => by decide)
    rw [h9] at opens
    exact .continues _ rfl opens
  · exact .refuses _ _ _

/-- A byte in the range goes on with the open character. -/
theorem next_fed {p : Pending} (h : p.Opens) {b : UInt8} (hl : p.low.toNat ≤ b.toNat)
    (hh : b.toNat ≤ p.high.toNat) :
    Fed p.seen b
      (if p.missing = 1 then ([.char (Char.ofNat (p.value * 64 + (b.toNat - 0x80)))], none)
      else ([], some
        ⟨p.seen ++ [b], p.value * 64 + (b.toNat - 0x80), p.missing - 1, 0x80, 0xBF⟩)) := by
  obtain ⟨hmissing, hlow, hhigh, encodes⟩ := h
  obtain ⟨seen, value, missing, low, high⟩ := p
  simp only at *
  obtain ⟨k, rfl⟩ : ∃ k, missing = k + 1 := ⟨missing - 1, by omega⟩
  -- the number of any character with these bytes, cut before its last `k` continuation bytes
  have encodes_b : ∀ v, leading v k = value * 64 + (b.toNat - 0x80) →
      utf8EncodeChar (Char.ofNat v) = seen ++ b :: continuation v k := by
    intro v hv
    have hvalue : leading v (k + 1) = value := by
      rw [leading, hv]
      omega
    have hbyte : leading v k % 64 + 0x80 = b.toNat := by
      rw [hv]
      omega
    rw [encodes v hvalue (by simpa [hbyte] using hl) (by simpa [hbyte] using hh), continuation,
      ofNat_of_toNat hbyte]
  split
  · rename_i hk
    obtain rfl : k = 0 := by omega
    exact .ends _ (encodes_b _ rfl)
  · refine .continues _ rfl ⟨by simp only; omega, Nat.le_refl _, Nat.le_refl _, fun v hv _ _ => ?_⟩
    simp only [Nat.add_sub_cancel] at hv
    rw [encodes_b v hv]
    simp

/-- What a byte does, for every state of the machine. -/
theorem feed_fed {p : Option Pending} (h : ∀ q, p = some q → q.Opens) (b : UInt8) :
    Fed (seenBy p) b (feed p b) := by
  cases p with
  | none => exact start_fed b
  | some p =>
    simp only [feed]
    split
    · rename_i range
      exact next_fed (h p rfl) (UInt8.le_iff_toNat_le.mp range.1)
        (UInt8.le_iff_toNat_le.mp range.2)
    · exact .refuses _ _ _

/-! ## 4. Texts -/

/-- Chunks that are all characters encode to the bytes they were cut from. -/
theorem encode_chunksFrom (bs : Bytes) : ∀ (p : Option Pending), (∀ q, p = some q → q.Opens) →
    ∀ cs, (chunksFrom p bs).mapM Chunk.char? = some cs →
      cs.flatMap utf8EncodeChar = seenBy p ++ bs := by
  induction bs with
  | nil =>
    intro p _ cs hcs
    cases p with
    | none =>
      obtain rfl : [] = cs := by simpa [chunksFrom] using hcs
      rfl
    | some p => simp [chunksFrom, Chunk.char?] at hcs
  | cons b bs ih =>
    intro p hp cs hcs
    have fed := feed_fed hp b
    simp only [chunksFrom] at hcs
    generalize feed p b = result at fed hcs
    cases fed with
    | ends c encoded =>
      simp only [List.cons_append, List.nil_append, List.mapM_cons, Chunk.char?,
        Option.bind_eq_bind, Option.bind_some, Option.bind_eq_some_iff, Option.pure_def,
        Option.some.injEq] at hcs
      obtain ⟨rest, hrest, rfl⟩ := hcs
      rw [List.flatMap_cons, encoded, ih none (by simp) rest hrest]
      simp [seenBy]
    | continues q bytes opens =>
      rw [ih (some q) (fun q' hq' => Option.some.inj hq' ▸ opens) cs hcs]
      simp [seenBy, bytes]
    | refuses bytes rest next => simp [Chunk.char?] at hcs

/-- **Bytes that spell a text are its encoding.** -/
theorem encode_of_decode? {bs : Bytes} {s : String} (h : decode? bs = some s) : encode s = bs := by
  unfold decode? at h
  obtain ⟨cs, hcs, rfl⟩ := Option.map_eq_some_iff.mp h
  have := encode_chunksFrom bs none (by simp) cs hcs
  simpa [encode, seenBy] using this

/-- Different texts have different encodings. -/
theorem encode_injective : Function.Injective encode := by
  intro a b h
  have bytes : a.toList.utf8Encode = b.toList.utf8Encode := congrArg List.toByteArray h
  rwa [String.utf8Encode_toList, String.utf8Encode_toList, String.toByteArray_inj] at bytes

/-! ## 5. Encodings read back -/

/-- The machine holds the beginning of the character with the number `v` and lets in the next of its
    last `k + 1` bytes. -/
structure Pending.Awaits (p : Pending) (v k : Nat) : Prop where
  missing : p.missing = k + 1
  value : p.value = leading v (k + 1)
  low_le : p.low.toNat ≤ leading v k % 64 + 0x80
  le_high : leading v k % 64 + 0x80 ≤ p.high.toNat

/-- The next byte of the awaited character is let in, and carries its bits. -/
theorem Pending.Awaits.feed_eq {p : Pending} {v k : Nat} (h : p.Awaits v k) :
    feed (some p) (UInt8.ofNat (leading v k % 64 + 0x80)) =
      if k = 0 then ([.char (Char.ofNat (leading v k))], none)
      else ([], some ⟨p.seen ++ [UInt8.ofNat (leading v k % 64 + 0x80)], leading v k, k, 0x80,
        0xBF⟩) := by
  have number : (UInt8.ofNat (leading v k % 64 + 0x80)).toNat = leading v k % 64 + 0x80 :=
    UInt8.toNat_ofNat_of_lt' (by show _ < 256; omega)
  have range : p.low ≤ UInt8.ofNat (leading v k % 64 + 0x80) ∧
      UInt8.ofNat (leading v k % 64 + 0x80) ≤ p.high := by
    simp only [UInt8.le_iff_toNat_le, number]
    exact ⟨h.low_le, h.le_high⟩
  have carried : p.value * 64 + leading v k % 64 = leading v k := by
    rw [h.value, leading]
    omega
  simp only [feed, if_pos range, number, Nat.add_sub_cancel, carried, h.missing, Nat.add_eq_right]

/-- The continuation bytes of a character end it. -/
theorem chunksFrom_continuation {v k : Nat} {p : Pending} (h : p.Awaits v k) (rest : Bytes) :
    chunksFrom (some p) (continuation v (k + 1) ++ rest) =
      .char (Char.ofNat v) :: chunksFrom none rest := by
  induction k generalizing p with
  | zero =>
    rw [continuation, List.cons_append, chunksFrom, h.feed_eq, if_pos rfl]
    rfl
  | succ k ih =>
    rw [continuation, List.cons_append, chunksFrom, h.feed_eq, if_neg (Nat.succ_ne_zero k)]
    refine ih ⟨rfl, rfl, Nat.le_add_left _ _, ?_⟩
    show leading v k % 64 + 0x80 ≤ 0xBF
    omega

theorem encodeChar_one {v : Nat} (h : v ≤ 0x7F) :
    utf8EncodeChar (Char.ofNat v) = [UInt8.ofNat v] := by
  have hv : v.isValidChar := Or.inl (by omega)
  simp only [utf8EncodeChar, toNat_ofNat hv, if_pos h]

/-- The first byte of a character of two bytes leaves it open. -/
theorem start_two {v : Nat} (h1 : 0x80 ≤ v) (h2 : v < 0x800) :
    ∃ p, start (UInt8.ofNat (v / 64 + 0xC0)) = ([], some p) ∧ p.Awaits v 0 := by
  have number : (UInt8.ofNat (v / 64 + 0xC0)).toNat = v / 64 + 0xC0 :=
    UInt8.toNat_ofNat_of_lt' (by show _ < 256; omega)
  simp only [start, UInt8.le_iff_toNat_le, UInt8.lt_iff_toNat_lt, number, UInt8.reduceToNat]
  rw [if_neg (by omega), if_neg (by omega), if_pos (by omega)]
  refine ⟨_, rfl, rfl, ?_, ?_, ?_⟩ <;> simp only [leading, UInt8.reduceToNat] <;> omega

/-- The first byte of a character of three bytes leaves it open, with a range for the next byte that
    keeps out small numbers and surrogates, and so not this character. -/
theorem start_three {v : Nat} (valid : v.isValidChar) (h1 : 0x800 ≤ v) (h2 : v < 0x10000) :
    ∃ p, start (UInt8.ofNat (v / 4096 + 0xE0)) = ([], some p) ∧ p.Awaits v 1 := by
  have number : (UInt8.ofNat (v / 4096 + 0xE0)).toNat = v / 4096 + 0xE0 :=
    UInt8.toNat_ofNat_of_lt' (by show _ < 256; omega)
  have surrogate : v < 0xD800 ∨ 0xDFFF < v := by
    rcases valid with valid | valid <;> omega
  simp only [start, UInt8.le_iff_toNat_le, UInt8.lt_iff_toNat_lt, ← UInt8.toNat_inj, number,
    UInt8.reduceToNat]
  rw [if_neg (by omega), if_neg (by omega), if_neg (by omega)]
  by_cases small : v / 4096 + 0xE0 = 0xE0
  · rw [if_pos small]
    refine ⟨_, rfl, rfl, ?_, ?_, ?_⟩ <;> simp only [leading, UInt8.reduceToNat] <;> omega
  · rw [if_neg small]
    by_cases near : v / 4096 + 0xE0 = 0xED
    · rw [if_pos near]
      refine ⟨_, rfl, rfl, ?_, ?_, ?_⟩ <;> simp only [leading, UInt8.reduceToNat] <;> omega
    · rw [if_neg near, if_pos (by omega)]
      refine ⟨_, rfl, rfl, ?_, ?_, ?_⟩ <;> simp only [leading, UInt8.reduceToNat] <;> omega

/-- The first byte of a character of four bytes leaves it open, with a range for the next byte that
    keeps out small and large numbers, and so not this character. -/
theorem start_four {v : Nat} (valid : v.isValidChar) (h : 0x10000 ≤ v) :
    ∃ p, start (UInt8.ofNat (v / 262144 + 0xF0)) = ([], some p) ∧ p.Awaits v 2 := by
  have large : v < 0x110000 := by
    rcases valid with valid | valid <;> omega
  have number : (UInt8.ofNat (v / 262144 + 0xF0)).toNat = v / 262144 + 0xF0 :=
    UInt8.toNat_ofNat_of_lt' (by show _ < 256; omega)
  simp only [start, UInt8.le_iff_toNat_le, UInt8.lt_iff_toNat_lt, ← UInt8.toNat_inj, number,
    UInt8.reduceToNat]
  rw [if_neg (by omega), if_neg (by omega), if_neg (by omega), if_neg (by omega),
    if_neg (by omega), if_neg (by omega)]
  by_cases small : v / 262144 + 0xF0 = 0xF0
  · rw [if_pos small]
    refine ⟨_, rfl, rfl, ?_, ?_, ?_⟩ <;> simp only [leading, UInt8.reduceToNat] <;> omega
  · rw [if_neg small]
    by_cases inner : v / 262144 + 0xF0 ≤ 0xF3
    · rw [if_pos inner]
      refine ⟨_, rfl, rfl, ?_, ?_, ?_⟩ <;> simp only [leading, UInt8.reduceToNat] <;> omega
    · rw [if_neg inner, if_pos (by omega)]
      refine ⟨_, rfl, rfl, ?_, ?_, ?_⟩ <;> simp only [leading, UInt8.reduceToNat] <;> omega

/-- **The machine cuts the bytes of a character off as this character.** -/
theorem chunksFrom_encodeChar (c : Char) (rest : Bytes) :
    chunksFrom none (utf8EncodeChar c ++ rest) = .char c :: chunksFrom none rest := by
  obtain ⟨v, valid, rfl⟩ : ∃ v : Nat, v.isValidChar ∧ Char.ofNat v = c :=
    ⟨c.toNat, c.valid, c.ofNat_toNat⟩
  have opened {b : UInt8} {k : Nat} (h : ∃ p, start b = ([], some p) ∧ p.Awaits v k) :
      chunksFrom none (b :: continuation v (k + 1) ++ rest) =
        .char (Char.ofNat v) :: chunksFrom none rest := by
    obtain ⟨p, first, awaits⟩ := h
    rw [List.cons_append, chunksFrom, feed, first]
    exact chunksFrom_continuation awaits rest
  by_cases one : v ≤ 0x7F
  · have number : (UInt8.ofNat v).toNat = v := UInt8.toNat_ofNat_of_lt' (by show _ < 256; omega)
    have small : UInt8.ofNat v ≤ 0x7F := by
      rw [UInt8.le_iff_toNat_le, number]
      exact one
    rw [encodeChar_one one, List.cons_append, chunksFrom, feed, start, if_pos small, number]
    rfl
  · by_cases two : v < 0x800
    · rw [encodeChar_two (by omega) two]
      exact opened (start_two (by omega) two)
    · by_cases three : v < 0x10000
      · rw [encodeChar_three valid (by omega) three]
        exact opened (start_three valid (by omega) three)
      · rw [encodeChar_four valid (by omega)]
        exact opened (start_four valid (by omega))

/-- The chunks of an encoding are the characters of the text. -/
theorem chunks_encode (s : String) : chunks (encode s) = s.toList.map .char := by
  unfold chunks encode
  induction s.toList with
  | nil => rfl
  | cons c rest ih => rw [List.flatMap_cons, chunksFrom_encodeChar, ih, List.map_cons]

/-- **Bytes spell a text exactly if they are its encoding.** -/
theorem decode?_eq_some_iff {bs : Bytes} {s : String} : decode? bs = some s ↔ encode s = bs := by
  refine ⟨encode_of_decode?, ?_⟩
  rintro rfl
  have characters (cs : List Char) : (cs.map Chunk.char).mapM Chunk.char? = some cs := by
    rw [List.mapM_map]
    induction cs with
    | nil => rfl
    | cons c rest ih => simp [Chunk.char?, ih]
  rw [decode?, chunks_encode, characters, Option.map_some, String.ofList_toList]

/-- In valid bytes nothing is replaced. -/
theorem lossy_encode (s : String) : lossy (encode s) = s := by
  rw [lossy, chunks_encode, List.map_map]
  have same : Chunk.shown ∘ Chunk.char = id := rfl
  rw [same, List.map_id, String.ofList_toList]
end PluginDiscovery.Utf8
