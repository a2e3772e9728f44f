/-
Parts in any order. With exact arithmetic it does not matter which of two parts is accumulated
or merged first. What collects has to know that parts cover elements: a highest value is replaced
by any other one as long as nothing was counted.
-/

import CrateMetrics.Proofs.RollUp.Exact
import CrateMetrics.Proofs.RollUp.Rules

namespace CrateMetrics.Policy

variable (policy : Policy) (metric : Metric ℚ)

/-- Merged values weigh as much as the two that were merged, also where nothing is counted. -/
theorem value_mul_count_merged_average (left right : MetricValue ℚ) :
    (average.merged metric left right).value * ((left.count + right.count : ℕ) : ℚ) =
      left.value * (left.count : ℚ) + right.value * (right.count : ℚ) := by
  change (left.value * (left.count : ℚ) + right.value * (right.count : ℚ)) /
    ((left.count + right.count : ℕ) : ℚ) * ((left.count + right.count : ℕ) : ℚ) = _
  by_cases empty : left.count + right.count = 0
  · have nothing : left.count = 0 ∧ right.count = 0 := by omega
    simp [nothing.1, nothing.2]
  · exact div_mul_cancel₀ _ (Nat.cast_ne_zero.mpr empty)

/-- A value that was merged before counts in the next merge for what it was merged from. -/
theorem value_merged_merged_average (first second third : MetricValue ℚ) :
    (average.merged metric (average.merged metric first second) third).value =
      (first.value * (first.count : ℚ) + second.value * (second.count : ℚ) +
        third.value * (third.count : ℚ)) /
        ((first.count + second.count + third.count : ℕ) : ℚ) := by
  rw [← value_mul_count_merged_average metric first second]
  rfl

theorem merged_comm {left right : MetricValue ℚ} (sameName : left.name = right.name)
    (samePending : left.pending = right.pending) :
    policy.merged metric left right = policy.merged metric right left := by
  cases policy with
  | average =>
      simp only [merged, sameName, samePending, Nat.add_comm left.count right.count]
      rw [add_comm (left.value * _)]
  | worstOf =>
      simp only [merged, sameName, samePending, Scalar.larger_eq_max, Nat.add_comm left.count,
        max_comm left.value, Bool.or_comm left.violated]

theorem merged_right_comm (known first second : MetricValue ℚ) :
    policy.merged metric (policy.merged metric known first) second =
      policy.merged metric (policy.merged metric known second) first := by
  cases policy with
  | average =>
      let both (left right : MetricValue ℚ) : MetricValue ℚ :=
        average.merged metric (average.merged metric known left) right
      have same : (both first second).value = (both second first).value := by
        rw [value_merged_merged_average, value_merged_merged_average, add_right_comm,
          Nat.add_right_comm]
      have fields (left right : MetricValue ℚ) : both left right =
          { known with
            value := (both left right).value
            violated := metric.violatedBy (both left right).value
            count := known.count + left.count + right.count } := rfl
      change both first second = both second first
      rw [fields first second, fields second first, same, Nat.add_right_comm]
  | worstOf =>
      simp only [merged, Scalar.larger_eq_max, max_right_comm, Bool.or_right_comm,
        Nat.add_right_comm]

theorem accumulated_right_comm (whole : MetricValue ℚ) {first second : MetricValue ℚ}
    (coversFirst : 1 ≤ first.count) (coversSecond : 1 ≤ second.count) :
    policy.accumulated (policy.accumulated whole first) second =
      policy.accumulated (policy.accumulated whole second) first := by
  cases policy with
  | average =>
      simp only [accumulated]
      rw [add_right_comm, Nat.add_right_comm]
  | worstOf =>
      let both (left right : MetricValue ℚ) : MetricValue ℚ :=
        worstOf.accumulated (worstOf.accumulated whole left) right
      have value (left right : MetricValue ℚ) (covers : 1 ≤ left.count) :
          (both left right).value =
            if whole.count = 0 then max left.value right.value
            else max (max whole.value left.value) right.value := by
        have counted : 1 ≤ (worstOf.accumulated whole left).count := by
          rw [count_accumulated]
          omega
        rw [value_accumulated_worstOf counted]
        by_cases empty : whole.count = 0
        · rw [if_pos empty, value_accumulated_worstOf_empty empty]
        · rw [if_neg empty, value_accumulated_worstOf (by omega)]
      have same : (both first second).value = (both second first).value := by
        rw [value first second coversFirst, value second first coversSecond, max_right_comm,
          max_comm first.value]
      have fields (left right : MetricValue ℚ) : both left right =
          { whole with
            value := (both left right).value
            violated := whole.violated || left.violated || right.violated
            count := whole.count + left.count + right.count } := rfl
      change both first second = both second first
      rw [fields first second, fields second first, same, Nat.add_right_comm, Bool.or_right_comm]

end CrateMetrics.Policy
