/-
How the values of parts roll up into the value of the whole. A parent value starts empty
and pending, collects final values, and is finalized once. Two final values of the same
element, found in different files, are merged. Misuse is refused and changes nothing.
-/

import CrateMetrics.Measurement
import CrateMetrics.Metric

namespace CrateMetrics

inductive Policy where
  /-- The mean, weighted by element counts. While a value is pending it holds the sum. -/
  | average
  /-- The highest value; violated as soon as one part is. -/
  | worstOf
  deriving DecidableEq, Repr

variable {α : Type} [Scalar α]

def MetricValue.requireFinal {σ : Type} (value : MetricValue α) : Edit σ Unit := do
  if value.pending then
    throw (.invariant (.neverFinalized value.name))
  if value.count = 0 then
    throw (.invariant (.noElements value.name))

namespace Policy

def accumulate (policy : Policy) (child : MetricValue α) : Edit (MetricValue α) Unit := do
  child.requireFinal
  let parent ← get
  if !parent.pending then
    throw (.invariant (.contributionAfterFinal parent.name))
  let count := parent.count + child.count
  match policy with
  | .average =>
      set { parent with value := parent.value + child.value * Scalar.ofCount child.count, count }
  | .worstOf =>
      let raises := parent.count = 0 || Scalar.lt parent.value child.value
      set { parent with
        value := if raises then child.value else parent.value
        violated := parent.violated || child.violated
        count }

def merge (policy : Policy) (metric : Metric α) (incoming : MetricValue α) :
    Edit (MetricValue α) Unit := do
  let existing ← get
  existing.requireFinal
  incoming.requireFinal
  let count := existing.count + incoming.count
  match policy with
  | .average =>
      let sum := existing.value * Scalar.ofCount existing.count +
        incoming.value * Scalar.ofCount incoming.count
      let value := sum / Scalar.ofCount count
      set { existing with value, violated := metric.violatedBy value, count }
  | .worstOf =>
      set { existing with
        value := Scalar.larger existing.value incoming.value
        violated := existing.violated || incoming.violated
        count }

def finalize (policy : Policy) (metric : Metric α) : Edit (MetricValue α) Unit := do
  let sum ← get
  if !sum.pending then
    throw (.invariant (.finalizedTwice sum.name))
  if sum.count = 0 then
    throw (.invariant (.nothingToAverage sum.name))
  match policy with
  | .average =>
      let value := sum.value / Scalar.ofCount sum.count
      set { sum with value, violated := metric.violatedBy value, pending := false }
  | .worstOf => set { sum with pending := false }

end Policy

end CrateMetrics
