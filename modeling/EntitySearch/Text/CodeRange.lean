/-!
# Runs of code points

A character class is a list of runs of code points, each given by its first and its last member.
-/

namespace EntitySearch.Text

/-- A run of code points: the first and the last. -/
abbrev CodeRange := Nat × Nat

/-- Whether a character lies in one of the runs. -/
def CodeRange.covers (ranges : List CodeRange) (c : Char) : Bool :=
  ranges.any fun r => decide (r.1 ≤ c.toNat) && decide (c.toNat ≤ r.2)

theorem CodeRange.covers_iff (ranges : List CodeRange) (c : Char) :
    CodeRange.covers ranges c = true ↔ ∃ r ∈ ranges, r.1 ≤ c.toNat ∧ c.toNat ≤ r.2 := by
  simp [CodeRange.covers]

end EntitySearch.Text
