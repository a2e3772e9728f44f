/-
The rules of aggregation where none is broken. A value collects as long as it is pending;
final values cover an element; what collects final values has something to finalize.
-/

import CrateMetrics.Meter
import CrateMetrics.Proofs.Editing

namespace CrateMetrics

open Edit

variable {α : Type}

/-- The value is reported as it stands. -/
structure MetricValue.Final (value : MetricValue α) : Prop where
  settled : value.pending = false
  covers : 1 ≤ value.count

/-- The value collects, and something was collected. -/
structure MetricValue.Collecting (value : MetricValue α) : Prop where
  pending : value.pending = true
  covers : 1 ≤ value.count

theorem MetricValue.Final.takes_requireFinal {σ : Type} {value : MetricValue α}
    (isFinal : value.Final) (state : σ) : Takes value.requireFinal state () state := by
  have covers : ¬ value.count = 0 := by
    have atLeastOne := isFinal.covers
    omega
  unfold MetricValue.requireFinal
  rw [isFinal.settled]
  simp only [Bool.false_eq_true, if_false, if_neg covers]
  exact takes_pure () state

variable [Scalar α]

namespace Policy

/-- The collecting value with the contribution of a part. -/
def accumulated (policy : Policy) (whole part : MetricValue α) : MetricValue α :=
  match policy with
  | .average =>
      { whole with
        value := whole.value + part.value * Scalar.ofCount part.count
        count := whole.count + part.count }
  | .worstOf =>
      { whole with
        value := if whole.count = 0 || Scalar.lt whole.value part.value then part.value
          else whole.value
        violated := whole.violated || part.violated
        count := whole.count + part.count }

def merged (policy : Policy) (metric : Metric α) (known incoming : MetricValue α) :
    MetricValue α :=
  match policy with
  | .average =>
      let value := (known.value * Scalar.ofCount known.count +
          incoming.value * Scalar.ofCount incoming.count) /
        Scalar.ofCount (known.count + incoming.count)
      { known with
        value
        violated := metric.violatedBy value
        count := known.count + incoming.count }
  | .worstOf =>
      { known with
        value := Scalar.larger known.value incoming.value
        violated := known.violated || incoming.violated
        count := known.count + incoming.count }

/-- The value that is reported for what was collected. -/
def finalized (policy : Policy) (metric : Metric α) (whole : MetricValue α) : MetricValue α :=
  match policy with
  | .average =>
      let value := whole.value / Scalar.ofCount whole.count
      { whole with value, violated := metric.violatedBy value, pending := false }
  | .worstOf => { whole with pending := false }

variable (policy : Policy) (metric : Metric α)

@[simp] theorem name_accumulated (whole part : MetricValue α) :
    (policy.accumulated whole part).name = whole.name := by
  cases policy <;> rfl

@[simp] theorem count_accumulated (whole part : MetricValue α) :
    (policy.accumulated whole part).count = whole.count + part.count := by
  cases policy <;> rfl

@[simp] theorem pending_accumulated (whole part : MetricValue α) :
    (policy.accumulated whole part).pending = whole.pending := by
  cases policy <;> rfl

@[simp] theorem name_merged (known incoming : MetricValue α) :
    (policy.merged metric known incoming).name = known.name := by
  cases policy <;> rfl

@[simp] theorem count_merged (known incoming : MetricValue α) :
    (policy.merged metric known incoming).count = known.count + incoming.count := by
  cases policy <;> rfl

@[simp] theorem pending_merged (known incoming : MetricValue α) :
    (policy.merged metric known incoming).pending = known.pending := by
  cases policy <;> rfl

@[simp] theorem name_finalized (whole : MetricValue α) :
    (policy.finalized metric whole).name = whole.name := by
  cases policy <;> rfl

@[simp] theorem count_finalized (whole : MetricValue α) :
    (policy.finalized metric whole).count = whole.count := by
  cases policy <;> rfl

@[simp] theorem pending_finalized (whole : MetricValue α) :
    (policy.finalized metric whole).pending = false := by
  cases policy <;> rfl

theorem takes_accumulate {whole part : MetricValue α} (collects : whole.pending = true)
    (isFinal : part.Final) :
    Takes (policy.accumulate part) whole () (policy.accumulated whole part) := by
  have collecting : ¬ (!whole.pending) = true := by simp [collects]
  unfold accumulate
  refine (isFinal.takes_requireFinal whole).bind ((takes_get whole).bind ?_)
  simp only [if_neg collecting]
  cases policy with
  | average => exact takes_set whole _
  | worstOf => exact takes_set whole _

theorem takes_merge {known incoming : MetricValue α} (finalKnown : known.Final)
    (finalIncoming : incoming.Final) :
    Takes (policy.merge metric incoming) known () (policy.merged metric known incoming) := by
  unfold merge
  refine (takes_get known).bind ((finalKnown.takes_requireFinal known).bind
    ((finalIncoming.takes_requireFinal known).bind ?_))
  cases policy with
  | average => exact takes_set known _
  | worstOf => exact takes_set known _

theorem takes_finalize {whole : MetricValue α} (collecting : whole.Collecting) :
    Takes (policy.finalize metric) whole () (policy.finalized metric whole) := by
  have covers : ¬ whole.count = 0 := by
    have atLeastOne := collecting.covers
    omega
  have pending : ¬ (!whole.pending) = true := by simp [collecting.pending]
  unfold finalize
  refine (takes_get whole).bind ?_
  simp only [if_neg pending, if_neg covers]
  cases policy with
  | average => exact takes_set whole _
  | worstOf => exact takes_set whole _

/-- Only what collects can be finalized. -/
theorem collecting_of_takes_finalize {whole after : MetricValue α}
    (finalizes : Takes (policy.finalize metric) whole () after) : whole.Collecting := by
  unfold finalize at finalizes
  have checked := finalizes.of_get_bind
  cases pending : whole.pending with
  | false =>
      simp only [pending] at checked
      cases checked
  | true =>
      by_cases empty : whole.count = 0
      · simp only [pending, if_pos empty] at checked
        cases checked
      · exact ⟨pending, Nat.one_le_iff_ne_zero.mpr empty⟩

end Policy

namespace MetricValue

variable {policy : Policy} {metric : Metric α}

theorem Final.merged {known incoming : MetricValue α} (finalKnown : known.Final) :
    (policy.merged metric known incoming).Final := by
  constructor
  · rw [Policy.pending_merged]
    exact finalKnown.settled
  · rw [Policy.count_merged]
    exact Nat.le_add_right_of_le finalKnown.covers

theorem Final.accumulated {whole part : MetricValue α} (isFinal : part.Final)
    (collects : whole.pending = true) : (policy.accumulated whole part).Collecting := by
  constructor
  · rw [Policy.pending_accumulated]
    exact collects
  · rw [Policy.count_accumulated]
    exact Nat.le_add_left_of_le isFinal.covers

end MetricValue

end CrateMetrics
