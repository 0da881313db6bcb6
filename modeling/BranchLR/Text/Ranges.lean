/-!
# Sorted ranges of code points

Character properties are given as lists of closed ranges in ascending order.
-/

namespace BranchLR

/-- Whether a number lies in one of the closed ranges of an ascending list. The search stops at the
first range that starts above the number. -/
def inRanges : List (Nat × Nat) → Nat → Bool
  | [], _ => false
  | (first, last) :: rest, n => decide (first ≤ n) && (decide (n ≤ last) || inRanges rest n)

end BranchLR
