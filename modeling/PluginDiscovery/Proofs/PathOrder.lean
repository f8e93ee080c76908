import Mathlib
import PluginDiscovery.FileTree.Path

/-!
# The order of the paths in a directory

Paths are ordered component by component. Of two paths in the same directory only the last component
differs, so they are ordered as the bytes of their names are.

* `IsEntryName`: the names that entries have;
* `components_join_of_relative`: joining adds components at the end, unless the path is absolute;
  `components_join`: the name of an entry is one component more;
* `lexLe_append`: a common beginning does not count;
* `le_join`: the order of the paths of entries is that of their names.
-/

namespace PluginDiscovery.Path

/-- The name is one component of a path, as the name of an entry is. -/
structure IsEntryName (name : Bytes) : Prop where
  ne_nil : name ≠ []
  noSlash : slash ∉ name
  ne_self : name ≠ [dot]
  ne_parent : name ≠ [dot, dot]

variable {p n m : Path}

/-! ## 1. Pieces -/

theorem pieces_ne_nil (p : Bytes) : pieces p ≠ [] := by
  cases p with
  | nil => simp [pieces]
  | cons b bs =>
    rw [pieces]
    split
    · exact List.cons_ne_nil _ _
    · split <;> exact List.cons_ne_nil _ _

/-- A separator divides the pieces. -/
theorem pieces_append_slash (p n : Bytes) : pieces (p ++ slash :: n) = pieces p ++ pieces n := by
  induction p with
  | nil => simp [pieces]
  | cons b bs ih =>
    rw [List.cons_append, pieces, pieces, ih]
    split
    · rfl
    · cases hbs : pieces bs with
      | nil => exact absurd hbs (pieces_ne_nil bs)
      | cons first rest => rfl

theorem pieces_of_noSlash (h : slash ∉ n) : pieces n = [n] := by
  induction n with
  | nil => rfl
  | cons b bs ih =>
    have hb : b ≠ slash := fun hb => h (hb ▸ List.mem_cons_self)
    rw [pieces, if_neg hb, ih fun hbs => h (List.mem_cons_of_mem b hbs)]

/-! ## 2. Components -/

theorem IsEntryName.inner_eq (h : IsEntryName n) : inner n = some (.name n) := by
  rw [inner, if_neg (not_or.mpr ⟨h.ne_nil, h.ne_self⟩), if_neg h.ne_parent]

theorem IsEntryName.isAbsolute_eq (h : IsEntryName n) : n.isAbsolute = false := by
  obtain ⟨b, bs, rfl⟩ := List.exists_cons_of_ne_nil h.ne_nil
  have hb : slash ≠ b := fun hb => h.noSlash (hb ▸ List.mem_cons_self)
  simpa [isAbsolute] using Ne.symm hb

/-- Paths that begin alike and have the pieces `old` and `new` at the end: what they have before
    those gives the same components. -/
theorem components_alike {p q : Path} {base old new : List Bytes} (begun : base ≠ [])
    (absolute : q.isAbsolute = p.isAbsolute) (hp : pieces p = base ++ old)
    (hq : pieces q = base ++ new) (silent : old.filterMap inner = []) :
    q.components = p.components ++ new.filterMap inner := by
  obtain ⟨first, rest, rfl⟩ := List.exists_cons_of_ne_nil begun
  have same : leading q first = leading p first := by
    simp only [leading, absolute]
  rw [components, components, hp, hq]
  simp [same, silent]

/-- A relative path is joined with one separator, which the path it is joined to may have already. -/
theorem join_eq_append (full : p ≠ []) (relative : n.isAbsolute = false) :
    ∃ q, p.join n = q ++ slash :: n ∧ (p = q ∨ p = q ++ [slash]) := by
  rw [join, relative, List.isEmpty_eq_false_iff.mpr full, if_neg Bool.false_ne_true,
    if_neg Bool.false_ne_true]
  split
  · rename_i ends
    have separated : p.dropLast ++ [slash] = p := by
      rw [List.getLast?_eq_some_getLast full] at ends
      rw [← Option.some.inj ends, List.dropLast_append_getLast]
    refine ⟨p.dropLast, ?_, Or.inr separated.symm⟩
    rw [← List.singleton_append, ← List.append_assoc, separated]
  · exact ⟨p, rfl, Or.inl rfl⟩

/-- **What is joined to a path adds its pieces to the components**, unless it is absolute. -/
theorem components_join_of_relative (full : p ≠ []) (relative : n.isAbsolute = false) :
    (p.join n).components = p.components ++ (pieces n).filterMap inner := by
  obtain ⟨q, joined, rfl | rfl⟩ := join_eq_append full relative
  · rw [joined]
    refine components_alike (pieces_ne_nil p) ?_ (List.append_nil _).symm (pieces_append_slash p n)
      rfl
    obtain ⟨b, bs, rfl⟩ := List.exists_cons_of_ne_nil full
    rfl
  · -- the separator at the end has an empty piece behind it, in whose place the new ones come
    rw [joined]
    refine components_alike (pieces_ne_nil q) ?_ (pieces_append_slash q []) (pieces_append_slash q n)
      rfl
    cases q <;> rfl

/-- **The name of an entry is one component more.** -/
theorem components_join (p : Path) (h : IsEntryName n) :
    (p.join n).components = p.components ++ [.name n] := by
  by_cases empty : p = []
  · simp [empty, join, components, pieces, pieces_of_noSlash h.noSlash, leading, h.ne_nil, h.ne_self,
      h.inner_eq, isAbsolute]
  · rw [components_join_of_relative empty h.isAbsolute_eq, pieces_of_noSlash h.noSlash]
    simp [h.inner_eq]

/-! ## 3. The order -/

section Lex

variable {α : Type} {le : α → α → Bool}

theorem lexLe_refl (refl : ∀ a, le a a = true) (as : List α) : lexLe le as as = true := by
  induction as with
  | nil => rfl
  | cons a as ih => rw [lexLe, refl, ih]; rfl

/-- A common beginning does not count. -/
theorem lexLe_append (refl : ∀ a, le a a = true) (cs as bs : List α) :
    lexLe le (cs ++ as) (cs ++ bs) = lexLe le as bs := by
  induction cs with
  | nil => rfl
  | cons c cs ih =>
    rw [List.cons_append, List.cons_append, lexLe, refl, ih]
    rfl

end Lex

/-- Names are ordered by their bytes. -/
theorem lexLe_bytes (m n : Bytes) :
    lexLe (fun i j => decide (i ≤ j)) (m.map UInt8.toNat) (n.map UInt8.toNat) =
      decide (m ≤ n) := by
  induction m generalizing n with
  | nil => simp [lexLe]
  | cons a as ih =>
    cases n with
    | nil => simp [lexLe]
    | cons b bs =>
      rw [List.map_cons, List.map_cons, lexLe, ih, Bool.eq_iff_iff]
      simp only [Bool.and_eq_true, Bool.or_eq_true, Bool.not_eq_true', decide_eq_true_iff,
        decide_eq_false_iff_not, List.cons_le_cons_iff, UInt8.lt_iff_toNat_lt, ← UInt8.toNat_inj]
      constructor
      · rintro ⟨le, lt | rest⟩
        · exact Or.inl (by omega)
        · rcases Nat.lt_or_eq_of_le le with lt | same
          · exact Or.inl lt
          · exact Or.inr ⟨same, rest⟩
      · rintro (lt | ⟨same, rest⟩)
        · exact ⟨by omega, Or.inl (by omega)⟩
        · exact ⟨by omega, Or.inr rest⟩

/-- **The paths of entries of one directory are ordered as the bytes of their names.** -/
theorem le_join (p : Path) (hm : IsEntryName m) (hn : IsEntryName n) :
    le (p.join m) (p.join n) = decide (m ≤ n) := by
  have nat : ∀ i : Nat, decide (i ≤ i) = true := fun i => decide_eq_true (Nat.le_refl i)
  rw [le, components_join p hm, components_join p hn, List.map_append, List.map_append,
    lexLe_append (lexLe_refl nat), ← lexLe_bytes]
  simp [lexLe, Component.key]

end PluginDiscovery.Path
