/-
**Ranges of code points.** A table of ascending, disjoint ranges, and the question whether it covers
a number.
-/

import TestOutline.Search.Bisect
import TestOutline.Text.CodePoint

namespace TestOutline

/-- Ascending, disjoint ranges of numbers, each with its first and its last member. -/
abbrev Ranges := Array (Nat × Nat)

/-- Whether a number lies in one of the ranges. -/
def Ranges.covers (ranges : Ranges) (number : Nat) : Bool :=
  let index :=
    Bisect.partitionPoint (fun index => (ranges.getD index (0, 0)).1 ≤ number) 0 ranges.size
  index != 0 && number ≤ (ranges.getD (index - 1) (0, 0)).2

end TestOutline
