/-
The configuration: for each metric a table that says whether it is measured and how its
values are checked. Limits left out fall back to those of the metric.
-/

import CrateMetrics.Meter

namespace CrateMetrics

inductive Verification where
  | max
  | min
  | range
  deriving DecidableEq, Repr

namespace Verification

def word : Verification → String
  | .max => "max"
  | .min => "min"
  | .range => "range"

def all : List Verification :=
  [.max, .min, .range]

def ofWord? (word : String) : Option Verification :=
  all.find? (fun verification => verification.word == word)

end Verification

structure MetricTable (α : Type) where
  enabled : Bool := true
  verification : Verification := .max
  min : Option α := none
  max : Option α := none
  deriving Repr

structure Config (α : Type) where
  complexity : MetricTable α := {}
  response : MetricTable α := {}
  cohesion : MetricTable α := {}
  deriving Repr

variable {α : Type}

def Config.table (config : Config α) : MetricKind → MetricTable α
  | .complexity => config.complexity
  | .response => config.response
  | .cohesion => config.cohesion

def MetricKind.defaultMax [Scalar α] : MetricKind → α
  | .complexity => Scalar.ofCount 10
  | .response => Scalar.ofCount 50
  | .cohesion => Scalar.ofCount 1

/-- The limit that the table of a metric asks for. A verification by a lower bound needs
one, and the bounds of a range have to be in order. -/
def MetricTable.limit [Scalar α] (table : MetricTable α) (kind : MetricKind) :
    Except Fault (Limit α) :=
  match table.verification with
  | .max => .ok (.atMost (table.max.getD kind.defaultMax))
  | .min =>
      match table.min with
      | some min => .ok (.atLeast min)
      | none => .error (.misconfigured (.missingMinimum kind.metricName))
  | .range =>
      match table.min, table.max with
      | some min, some max =>
          if Scalar.le min max then .ok (.between min max)
          else .error (.misconfigured (.emptyRange kind.metricName))
      | _, _ => .error (.misconfigured (.emptyRange kind.metricName))

def Config.resolve [Scalar α] (config : Config α) : Except Fault (List (Metric α)) :=
  (MetricKind.all.filter (fun kind => (config.table kind).enabled)).mapM (fun kind => do
    return { name := kind.metricName, limit := ← (config.table kind).limit kind })

end CrateMetrics
