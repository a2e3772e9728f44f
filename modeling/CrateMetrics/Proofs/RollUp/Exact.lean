/-
Rolling up with exact arithmetic. Over the rationals a value of the whole is what its
contributions say: their mean, weighted by element counts, or the highest of them. How they
were grouped and in which order they came does not matter.
-/

import CrateMetrics.Proofs.RollUp.PackageTree
import Mathlib.Algebra.BigOperators.Group.Multiset.Basic
import Mathlib.Algebra.Order.Field.Rat
import Mathlib.Algebra.Order.Group.Multiset
import Mathlib.Order.Bounds.Basic

namespace CrateMetrics

instance : Scalar ℚ where
  ofCount count := count
  lt left right := decide (left < right)
  le left right := decide (left ≤ right)

theorem Scalar.larger_eq_max (left right : ℚ) : Scalar.larger left right = max left right := by
  unfold Scalar.larger
  by_cases lower : right < left
  · have isLower : Scalar.lt right left = true := decide_eq_true lower
    rw [if_pos isLower, max_eq_left lower.le]
  · have isNumber : Scalar.le right right = true := decide_eq_true le_rfl
    have notLower : ¬ Scalar.lt right left = true := fun isLower =>
      lower (of_decide_eq_true isLower)
    rw [if_neg notLower, if_pos isNumber, max_eq_right (not_lt.mp lower)]

/-- What one unit says about one class: the names of package and class, the value of the
class, and how many elements the value covers. -/
structure Contribution where
  path : List String
  value : ℚ
  count : ℕ

namespace Contribution

def totalCount (parts : Multiset Contribution) : ℕ :=
  (parts.map count).sum

def weightedSum (parts : Multiset Contribution) : ℚ :=
  (parts.map (fun part => part.value * (part.count : ℚ))).sum

/-- The value is the highest one among the contributions. -/
def Highest (parts : Multiset Contribution) (value : ℚ) : Prop :=
  IsGreatest { other | ∃ part ∈ parts, part.value = other } value

theorem totalCount_add (left right : Multiset Contribution) :
    totalCount (left + right) = totalCount left + totalCount right := by
  rw [totalCount, Multiset.map_add, Multiset.sum_add]
  rfl

theorem weightedSum_add (left right : Multiset Contribution) :
    weightedSum (left + right) = weightedSum left + weightedSum right := by
  rw [weightedSum, Multiset.map_add, Multiset.sum_add]
  rfl

theorem Highest.add {left right : Multiset Contribution} {high low : ℚ}
    (ofLeft : Highest left high) (ofRight : Highest right low) :
    Highest (left + right) (max high low) := by
  have union : { other | ∃ part ∈ left + right, part.value = other } =
      { other | ∃ part ∈ left, part.value = other } ∪
        { other | ∃ part ∈ right, part.value = other } := by
    ext other
    simp only [Multiset.mem_add, or_and_right, exists_or, Set.mem_ofPred_eq, Set.mem_union]
  unfold Highest
  rw [union]
  exact IsGreatest.union ofLeft ofRight

end Contribution

open Contribution

/-! ### Collected and settled values -/

/-- The pending value of the contributions, none without any: the sum of their weighted
values, or the highest of them. -/
def Policy.Collects (policy : Policy) (parts : Multiset Contribution) :
    Option (MetricValue ℚ) → Prop
  | none => parts = 0
  | some whole => 1 ≤ whole.count ∧ whole.count = totalCount parts ∧
      match policy with
      | .average => whole.value = weightedSum parts
      | .worstOf => Highest parts whole.value

/-- The final value of the contributions, none without any: their weighted mean, or the
highest of them. -/
def Policy.Settles (policy : Policy) (parts : Multiset Contribution) :
    Option (MetricValue ℚ) → Prop
  | none => parts = 0
  | some value => 1 ≤ value.count ∧ value.count = totalCount parts ∧
      match policy with
      | .average => value.value = weightedSum parts / totalCount parts
      | .worstOf => Highest parts value.value

namespace Policy

variable {policy : Policy} {parts others : Multiset Contribution}

private theorem count_ne_zero {count : ℕ} (covers : 1 ≤ count) : (count : ℚ) ≠ 0 := by
  have positive : count ≠ 0 := by omega
  exact Nat.cast_ne_zero.mpr positive

private theorem mean_mul_count {value : MetricValue ℚ} (covers : 1 ≤ value.count)
    (counts : value.count = totalCount parts)
    (mean : value.value = weightedSum parts / totalCount parts) :
    value.value * value.count = weightedSum parts := by
  rw [mean, ← counts]
  exact div_mul_cancel₀ _ (count_ne_zero covers)

/-- What collects the highest value takes any value as long as nothing was counted. -/
theorem value_accumulated_worstOf_empty {whole : MetricValue ℚ} (empty : whole.count = 0)
    (part : MetricValue ℚ) : (worstOf.accumulated whole part).value = part.value := by
  simp [accumulated, empty]

theorem value_accumulated_worstOf {whole : MetricValue ℚ} (covers : 1 ≤ whole.count)
    (part : MetricValue ℚ) :
    (worstOf.accumulated whole part).value = max whole.value part.value := by
  have counted : ¬ whole.count = 0 := by omega
  change (if decide (whole.count = 0) || decide (whole.value < part.value) then part.value
    else whole.value) = _
  by_cases raises : whole.value < part.value
  · simp [raises, max_eq_right raises.le]
  · simp [counted, raises, max_eq_left (not_lt.mp raises)]

theorem Collects.accumulated {whole part : MetricValue ℚ}
    (collects : policy.Collects parts (some whole))
    (settles : policy.Settles others (some part)) :
    policy.Collects (parts + others) (some (policy.accumulated whole part)) := by
  obtain ⟨covers, counts, isWhole⟩ := collects
  obtain ⟨coversPart, countsPart, isPart⟩ := settles
  refine ⟨?_, ?_, ?_⟩
  · rw [count_accumulated]
    omega
  · rw [count_accumulated, totalCount_add, counts, countsPart]
  · cases policy with
    | average =>
        change whole.value + part.value * (part.count : ℚ) = _
        rw [weightedSum_add, mean_mul_count coversPart countsPart isPart]
        exact congrArg (· + weightedSum others) isWhole
    | worstOf =>
        change Highest _ (worstOf.accumulated whole part).value
        rw [value_accumulated_worstOf covers]
        exact Highest.add isWhole isPart

theorem Settles.accumulated_empty {part : MetricValue ℚ} (name : String)
    (settles : policy.Settles parts (some part)) :
    policy.Collects parts (some (policy.accumulated (MetricValue.empty name) part)) := by
  obtain ⟨covers, counts, isPart⟩ := settles
  refine ⟨?_, ?_, ?_⟩
  · rw [count_accumulated]
    exact Nat.le_add_left_of_le covers
  · rw [count_accumulated, ← counts]
    exact Nat.zero_add part.count
  · cases policy with
    | average =>
        change ((0 : ℕ) : ℚ) + part.value * (part.count : ℚ) = _
        rw [mean_mul_count covers counts isPart, Nat.cast_zero, zero_add]
    | worstOf => exact isPart

theorem Collects.finalized {metric : Metric ℚ} {cell : Option (MetricValue ℚ)}
    (collects : policy.Collects parts cell) :
    policy.Settles parts (cell.map (policy.finalized metric)) := by
  cases cell with
  | none => exact collects
  | some whole =>
      obtain ⟨covers, counts, isWhole⟩ := collects
      refine ⟨?_, ?_, ?_⟩
      · rw [count_finalized]
        exact covers
      · rw [count_finalized]
        exact counts
      · cases policy with
        | average =>
            change whole.value / (whole.count : ℚ) = _
            rw [counts]
            exact congrArg (· / (totalCount parts : ℚ)) isWhole
        | worstOf => exact isWhole

theorem Settles.merged {metric : Metric ℚ} {known incoming : MetricValue ℚ}
    (settlesKnown : policy.Settles parts (some known))
    (settlesIncoming : policy.Settles others (some incoming)) :
    policy.Settles (parts + others) (some (policy.merged metric known incoming)) := by
  obtain ⟨covers, counts, isKnown⟩ := settlesKnown
  obtain ⟨coversIncoming, countsIncoming, isIncoming⟩ := settlesIncoming
  refine ⟨?_, ?_, ?_⟩
  · rw [count_merged]
    omega
  · rw [count_merged, totalCount_add, counts, countsIncoming]
  · cases policy with
    | average =>
        change (known.value * (known.count : ℚ) + incoming.value * (incoming.count : ℚ)) /
          ((known.count + incoming.count : ℕ) : ℚ) = _
        rw [mean_mul_count covers counts isKnown,
          mean_mul_count coversIncoming countsIncoming isIncoming, weightedSum_add,
          totalCount_add, counts, countsIncoming]
    | worstOf =>
        change Highest _ (Scalar.larger known.value incoming.value)
        rw [Scalar.larger_eq_max]
        exact Highest.add isKnown isIncoming

end Policy

end CrateMetrics
