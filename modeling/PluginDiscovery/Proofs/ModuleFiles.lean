import PluginDiscovery.Engine.Scan
import PluginDiscovery.Proofs.Utf8Encoding

/-!
# Which entries of a directory are candidates

`HasExtension` says what a suffix is without cutting a name into pieces: the name is some stem, a
dot and the suffix, and the suffix has no dot. `standing_eq_candidate_iff` reads the test of the scan
as the four conditions on a candidate, and `name_of_standing` that its name spells the bytes of the
entry.
-/

namespace PluginDiscovery

/-! ## 1. Extensions -/

/-- The text after the last dot of a name is `ext`. -/
def HasExtension (name ext : List Char) : Prop :=
  ∃ stem, name = stem ++ '.' :: ext ∧ '.' ∉ ext

theorem afterLastDot_append {stem ext : List Char} (h : '.' ∉ ext) :
    afterLastDot (stem ++ '.' :: ext) = some ext := by
  have hall : ∀ c ∈ ext.reverse, decide (c ≠ '.') = true := by
    intro c hc
    rw [decide_eq_true_iff]
    rintro rfl
    exact h (List.mem_reverse.mp hc)
  have hrev : (stem ++ '.' :: ext).reverse = ext.reverse ++ '.' :: stem.reverse := by simp
  rw [afterLastDot, if_pos (by simp), hrev, List.takeWhile_append_of_pos hall,
    List.takeWhile_cons_of_neg (by simp), List.append_nil, List.reverse_reverse]

theorem afterLastDot_eq_some_iff {name ext : List Char} :
    afterLastDot name = some ext ↔ HasExtension name ext := by
  constructor
  · intro h
    have hdot : '.' ∈ name.reverse := by
      unfold afterLastDot at h
      split at h
      · rename_i hc
        simpa using hc
      · cases h
    -- the first dot of the reversed name is the last dot of the name
    obtain ⟨tail, rest, hrev, htail⟩ := List.eq_append_cons_of_mem hdot
    have hname : name = rest.reverse ++ '.' :: tail.reverse := by
      have := congrArg List.reverse hrev
      simpa using this
    have hfree : '.' ∉ tail.reverse := fun hc => htail (List.mem_reverse.mp hc)
    rw [hname, afterLastDot_append hfree] at h
    obtain rfl := Option.some.inj h
    exact ⟨rest.reverse, hname, hfree⟩
  · rintro ⟨stem, rfl, hext⟩
    exact afterLastDot_append hext

instance (name ext : List Char) : Decidable (HasExtension name ext) :=
  decidable_of_iff (afterLastDot name = some ext) afterLastDot_eq_some_iff

/-! ## 2. Candidates -/

namespace Settings

theorem hasSuffix_iff {s : Settings} {name : String} :
    s.hasSuffix name = true ↔ HasExtension name.toList s.suffix.toList := by
  rw [hasSuffix, beq_iff_eq, afterLastDot_eq_some_iff]

/-- The name is not left out: the exclusion that the settings carry, if any, does not match it. -/
def Admits (s : Settings) (name : String) : Prop :=
  ∀ test, s.exclusion = some test → test name = false

theorem excludes_eq_false_iff {s : Settings} {name : String} :
    s.excludes name = false ↔ s.Admits name := by
  unfold excludes Admits
  cases s.exclusion <;> simp

instance (s : Settings) (name : String) : Decidable (s.Admits name) :=
  decidable_of_iff (s.excludes name = false) excludes_eq_false_iff

/-- **A candidate has a name that is text and ends in the suffix, is no directory itself and is not
    left out.** -/
theorem standing_eq_candidate_iff {s : Settings} {e : FileSystem.Entry} {name : String} :
    s.standing e = .candidate name ↔
      Utf8.decode? e.name = some name ∧ HasExtension name.toList s.suffix.toList ∧
      e.isDirectory = false ∧ s.Admits name := by
  rw [← excludes_eq_false_iff]
  unfold standing
  constructor
  · intro h
    split at h
    · cases h
    · rename_i text hdecode
      split at h
      · cases h
      · rename_i hsuffix
        split at h
        · cases h
        · rename_i hdir
          split at h
          · cases h
          · rename_i hex
            cases h
            exact ⟨hdecode, hasSuffix_iff.mp (by simpa using hsuffix), by simpa using hdir,
              by simpa using hex⟩
  · rintro ⟨hdecode, hsuffix, hdir, hex⟩
    simp [hdecode, hasSuffix_iff.mpr hsuffix, hdir, hex]

/-- The path of a candidate is spelled by its name. -/
theorem name_of_standing {s : Settings} {e : FileSystem.Entry} {name : String}
    (h : s.standing e = .candidate name) : e.name = Path.ofString name :=
  (Utf8.encode_of_decode? (standing_eq_candidate_iff.mp h).1).symm

end Settings

end PluginDiscovery
