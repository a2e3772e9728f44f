/-
Configured metrics: a name and the limit its values are checked against.
-/

import CrateMetrics.Scalar

namespace CrateMetrics

inductive Limit (α : Type) where
  /-- Violated above the bound. -/
  | atMost (max : α)
  /-- Violated below the bound. -/
  | atLeast (min : α)
  /-- Violated outside of the closed interval. -/
  | between (min max : α)
  deriving Repr

variable {α : Type}

def Limit.violatedBy [Scalar α] (limit : Limit α) (value : α) : Bool :=
  match limit with
  | .atMost max => Scalar.lt max value
  | .atLeast min => Scalar.lt value min
  | .between min max => Scalar.lt value min || Scalar.lt max value

structure Metric (α : Type) where
  name : String
  limit : Limit α
  deriving Repr

def Metric.violatedBy [Scalar α] (metric : Metric α) (value : α) : Bool :=
  metric.limit.violatedBy value

def Metric.find? (metrics : List (Metric α)) (name : String) : Option (Metric α) :=
  metrics.find? (fun metric => metric.name == name)

end CrateMetrics
