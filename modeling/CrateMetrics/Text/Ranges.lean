/-
Sets of code points given as a table of ranges. A table lists disjoint inclusive
ranges in ascending order, and membership is decided by bisecting it.
-/

namespace CrateMetrics.Text

/-- Inclusive ranges of code points, disjoint and in ascending order. -/
abbrev Ranges := Array (Nat × Nat)

/-- Bisects the ranges with indices from `low` up to but not including `high`. Each step
halves what is left, so the number of ranges is enough steps. -/
def Ranges.search (ranges : Ranges) (code : Nat) : Nat → Nat → Nat → Bool
  | 0, _, _ => false
  | steps + 1, low, high =>
      if high ≤ low then
        false
      else
        let middle := (low + high) / 2
        match ranges[middle]? with
        | none => false
        | some (first, last) =>
            if code < first then
              Ranges.search ranges code steps low middle
            else if last < code then
              Ranges.search ranges code steps (middle + 1) high
            else
              true

def Ranges.contains (ranges : Ranges) (code : Nat) : Bool :=
  ranges.search code (ranges.size + 1) 0 ranges.size

end CrateMetrics.Text
