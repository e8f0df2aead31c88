/-!
# Membership in a list of closed intervals

* `inRanges` : a number lies in one of the intervals; `inRanges_iff`.
-/

namespace Entitlement.Text

/-- The number lies in one of the closed intervals. -/
def inRanges (ranges : List (Nat × Nat)) (n : Nat) : Bool :=
  ranges.any fun r => r.1 ≤ n && n ≤ r.2

theorem inRanges_iff {ranges : List (Nat × Nat)} {n : Nat} :
    inRanges ranges n = true ↔ ∃ r ∈ ranges, r.1 ≤ n ∧ n ≤ r.2 := by
  simp [inRanges]

end Entitlement.Text
