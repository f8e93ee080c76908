/-!
# Sets of characters, given by ranges

The properties of characters that texts are tested for (white space, printability, width) are
tables of the Unicode standard. A table is a list of ranges of code points, ends included.
-/

namespace PluginDiscovery

/-- A set of characters as a list of ranges of code points, ends included. -/
abbrev CodePoints := List (Nat × Nat)

/-- Whether some range of the table holds the character. -/
def CodePoints.has (table : CodePoints) (c : Char) : Bool :=
  table.any fun r => decide (r.1 ≤ c.toNat) && decide (c.toNat ≤ r.2)

/-- A table holds a character whose code point lies in one of its ranges. -/
theorem CodePoints.has_iff (table : CodePoints) (c : Char) :
    table.has c = true ↔ ∃ r ∈ table, r.1 ≤ c.toNat ∧ c.toNat ≤ r.2 := by
  simp [CodePoints.has]

end PluginDiscovery
