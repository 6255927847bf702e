/-!
# Tables of code points

A property of characters that a standard fixes by listing is kept as an increasing list of closed
intervals of code points.

## Main definitions

* `Ranges`: the intervals, as pairs of first and last code point.
* `Ranges.contains`: membership of a character.
-/

namespace RolloutTree

/-- Closed intervals of code points, given by their first and last members. -/
abbrev Ranges := List (Nat × Nat)

namespace Ranges

/-- Whether some interval of the table holds the character. -/
def contains (table : Ranges) (c : Char) : Bool :=
  table.any fun (first, last) => first ≤ c.toNat && c.toNat ≤ last

/-- A table answers by membership in one of its intervals. -/
theorem contains_iff {table : Ranges} {c : Char} :
    table.contains c = true ↔ ∃ r ∈ table, r.1 ≤ c.toNat ∧ c.toNat ≤ r.2 := by
  simp [contains]

end Ranges

end RolloutTree
