import Mathlib
import PluginDiscovery.Text.Blank
import PluginDiscovery.Text.KeyValue

/-!
# Trimmed texts and their parts

Trimming takes the white space off the two ends of a text and nothing from its middle. So a text is
trimmed to nothing when it has nothing but white space, and what is cut at an equals sign after it
was trimmed is a key without that sign and a value.

* `Blank.codePoints`: the white space, one character after the other; `isBlank_iff`;
* `Blank.TrimsTo`, `trimsTo_iff`: what trimming leaves of a text, without saying how it is found;
* `Blank.HasContent`, `isEmptyText_eq_false_iff`: the texts that trimming leaves something of;
* `KeyValue.split?_eq_some_iff`: the first equals sign of a text.
-/

namespace PluginDiscovery

namespace Blank

/-! ## 1. White space -/

/-- The code points with the property White_Space. -/
def codePoints : List Nat :=
  [0x09, 0x0A, 0x0B, 0x0C, 0x0D, 0x20, 0x85, 0xA0, 0x1680, 0x2000, 0x2001, 0x2002, 0x2003, 0x2004,
   0x2005, 0x2006, 0x2007, 0x2008, 0x2009, 0x200A, 0x2028, 0x2029, 0x202F, 0x205F, 0x3000]

theorem isBlank_iff (c : Char) : isBlank c = true ↔ c.toNat ∈ codePoints := by
  simp only [isBlank, CodePoints.has_iff, table, codePoints, List.mem_cons, List.not_mem_nil,
    or_false, exists_eq_or_imp, exists_eq_left]
  omega

/-- A text has a character that is not white space. -/
def HasContent (s : String) : Prop :=
  ∃ c ∈ s.toList, c.toNat ∉ codePoints

/-! ## 2. Trimming -/

/-- A text is trimmed to what stands between white space on its two sides and has none at its own
    ends. -/
inductive TrimsTo : List Char → List Char → Prop where
  | intro (before inside after : List Char) (blankBefore : ∀ c ∈ before, isBlank c = true)
      (blankAfter : ∀ c ∈ after, isBlank c = true)
      (first : ∀ c, inside.head? = some c → isBlank c = false)
      (last : ∀ c, inside.getLast? = some c → isBlank c = false) :
      TrimsTo (before ++ inside ++ after) inside

/-- Trimming drops from both ends. -/
theorem trimChars_eq (cs : List Char) :
    trimChars cs = (cs.dropWhile isBlank).rdropWhile isBlank :=
  rfl

theorem trimsTo_trimChars (cs : List Char) : TrimsTo cs (trimChars cs) := by
  have parts : cs.takeWhile isBlank ++ trimChars cs ++
      (cs.dropWhile isBlank).rtakeWhile isBlank = cs := by
    rw [trimChars_eq, List.append_assoc, List.rdropWhile_append_rtakeWhile,
      List.takeWhile_append_dropWhile]
  have trims : TrimsTo (cs.takeWhile isBlank ++ trimChars cs ++
      (cs.dropWhile isBlank).rtakeWhile isBlank) (trimChars cs) := by
    refine .intro _ _ _ (fun c hc => List.mem_takeWhile_imp hc)
      (fun c hc => List.mem_rtakeWhile_imp hc) (fun c first => ?_) (fun c last => ?_)
    · -- what is left begins where the dropping at the beginning stopped
      have begins : (cs.dropWhile isBlank).head? = some c := by
        obtain ⟨rest, hrest⟩ := List.rdropWhile_prefix isBlank (cs.dropWhile isBlank)
        rw [← hrest, List.head?_append, ← trimChars_eq, first]
        rfl
      have stopped := List.head?_dropWhile_not isBlank cs
      rwa [begins] at stopped
    · obtain ⟨full, rfl⟩ := List.mem_getLast?_eq_getLast last
      exact eq_false_of_ne_true (List.rdropWhile_last_not isBlank (cs.dropWhile isBlank) full)
  rwa [parts] at trims

/-- **Trimming leaves what stands between the white space, and nothing else is that.** -/
theorem trimsTo_iff {cs inside : List Char} : TrimsTo cs inside ↔ trimChars cs = inside := by
  constructor
  · rintro ⟨before, inside, after, blankBefore, blankAfter, first, last⟩
    rw [trimChars_eq, List.append_assoc, List.dropWhile_append_of_pos blankBefore]
    cases inside with
    | nil => simp [List.dropWhile_eq_nil_iff.mpr blankAfter]
    | cons c rest =>
      have kept : isBlank c = false := first c rfl
      rw [List.cons_append, List.dropWhile_cons_of_neg (by simp [kept]), ← List.cons_append]
      have onlyAfter : (c :: rest ++ after).rdropWhile isBlank =
          (c :: rest).rdropWhile isBlank := by
        rw [List.rdropWhile, List.reverse_append,
          List.dropWhile_append_of_pos (by simpa using blankAfter)]
        rfl
      rw [onlyAfter, List.rdropWhile_eq_self_iff]
      intro full
      simp [last _ (List.getLast?_eq_some_getLast full)]
  · rintro rfl
    exact trimsTo_trimChars cs

theorem isEmptyText_iff (s : String) :
    isEmptyText s = true ↔ ∀ c ∈ s.toList, isBlank c = true := by
  rw [isEmptyText, List.isEmpty_iff, ← trimsTo_iff]
  constructor
  · intro trims
    generalize hcs : s.toList = cs at trims
    cases trims with
    | intro before _ after blankBefore blankAfter first last =>
      intro c hc
      rcases List.mem_append.mp (by simpa using hc) with hb | ha
      · exact blankBefore c hb
      · exact blankAfter c ha
  · intro blank
    have trims : TrimsTo (s.toList ++ [] ++ []) [] :=
      .intro _ _ _ blank (by simp) (by simp) (by simp)
    simpa using trims

/-- **Trimming leaves something of the texts that have a character other than white space.** -/
theorem isEmptyText_eq_false_iff (s : String) : isEmptyText s = false ↔ HasContent s := by
  rw [← Bool.not_eq_true, isEmptyText_iff, HasContent]
  simp [isBlank_iff]

end Blank

/-! ## 3. Cutting -/

/-- **A text is cut at its first equals sign.** -/
theorem KeyValue.split?_eq_some_iff {cs key value : List Char} :
    split? cs = some (key, value) ↔ cs = key ++ '=' :: value ∧ '=' ∉ key := by
  induction cs generalizing key with
  | nil => simp [split?]
  | cons c cs ih =>
    by_cases equals : c = '='
    · subst equals
      cases key with
      | nil => simp [split?]
      | cons k key =>
        simp only [split?, if_true, Option.some.injEq, Prod.mk.injEq, List.cons_append,
          List.cons.injEq, List.mem_cons, not_or]
        grind
    · cases key with
      | nil => simp [split?, equals]
      | cons k key =>
        simp only [split?, equals, if_false, Option.map_eq_some_iff, Prod.exists, Prod.mk.injEq,
          List.cons_append, List.cons.injEq, List.mem_cons, not_or]
        constructor
        · rintro ⟨_, _, cut, ⟨rfl, rfl⟩, rfl⟩
          obtain ⟨rfl, free⟩ := ih.mp cut
          exact ⟨⟨rfl, rfl⟩, Ne.symm equals, free⟩
        · rintro ⟨⟨rfl, rfl⟩, -, free⟩
          exact ⟨key, value, ih.mpr ⟨rfl, free⟩, ⟨rfl, rfl⟩, rfl⟩

end PluginDiscovery
