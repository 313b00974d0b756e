import ApiForge.Text.Basic

/-!
# Code point ranges

Character classes beyond ASCII are tables of closed ranges in ascending order.
-/

namespace ApiForge

/-- The number lies in one of the ranges, which ascend. -/
def inRanges : List (Nat × Nat) → Nat → Bool
  | [], _ => false
  | (first, last) :: rest, number =>
      if number < first then false
      else number ≤ last || inRanges rest number

end ApiForge
