/-!
# Ranges of code points

Character classes of the Unicode standard are given by tables of inclusive ranges.
-/

namespace PocketShell.Text

/-- The code points from `first` to `last`, both included. -/
structure CodeRange where
  first : Nat
  last : Nat
  deriving DecidableEq, Repr

namespace CodeRange

/-- A code point lies in a range when it is neither below its start nor above its end. -/
def holds (r : CodeRange) (n : Nat) : Bool := r.first ≤ n && n ≤ r.last

theorem holds_iff (r : CodeRange) (n : Nat) : r.holds n = true ↔ r.first ≤ n ∧ n ≤ r.last := by
  simp [holds]

end CodeRange

/-- A table of ranges holds a character when one of its ranges does. -/
def inTable (table : List CodeRange) (c : Char) : Bool := table.any (·.holds c.toNat)

theorem inTable_iff (table : List CodeRange) (c : Char) :
    inTable table c = true ↔ ∃ r ∈ table, r.first ≤ c.toNat ∧ c.toNat ≤ r.last := by
  simp [inTable, CodeRange.holds_iff]

end PocketShell.Text
