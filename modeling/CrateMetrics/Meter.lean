/-
Meters: what measures one configured metric. A meter turns the events of a unit into one
measurement per class, folds these into the measurement of the package, and finalizes the
package once all its units are in.
-/

import CrateMetrics.Aggregation
import CrateMetrics.Cohesion.Usage
import CrateMetrics.Complexity
import CrateMetrics.Reading
import CrateMetrics.Response

namespace CrateMetrics

inductive MetricKind where
  | complexity
  | response
  | cohesion
  deriving DecidableEq, Repr

namespace MetricKind

def metricName : MetricKind → String
  | .complexity => "cyclomatic_complexity"
  | .response => "response_for_class"
  | .cohesion => "lcom4"

def all : List MetricKind :=
  [.complexity, .response, .cohesion]

def ofName? (name : String) : Option MetricKind :=
  all.find? (fun kind => kind.metricName == name)

def policy : MetricKind → Policy
  | .complexity => .average
  | .response => .average
  | .cohesion => .worstOf

variable {α : Type} [Scalar α]

def classValues (kind : MetricKind) (events : List Event) : List (ClassValue α) :=
  match kind with
  | .complexity => Complexity.classValues events
  | .response => Response.classValues events
  | .cohesion => Cohesion.classValues events

def notes (kind : MetricKind) (events : List Event) : List (Note α) :=
  match kind with
  | .complexity => Complexity.notes none events
  | .response => []
  | .cohesion => Cohesion.notes events

end MetricKind

structure Meter (α : Type) where
  kind : MetricKind
  metric : Metric α
  deriving Repr

namespace Meter

variable {α : Type}

def ofKind (metrics : List (Metric α)) (kind : MetricKind) : Except Fault (Meter α) :=
  match Metric.find? metrics kind.metricName with
  | none => .error (.misconfigured (.noMetric kind.metricName))
  | some metric => .ok { kind, metric }

def forName (metrics : List (Metric α)) (name : String) : Except Fault (Meter α) :=
  match MetricKind.ofName? name with
  | none => .error (.misconfigured (.noMeter name))
  | some kind => ofKind metrics kind

def all (metrics : List (Metric α)) : Except Fault (List (Meter α)) :=
  metrics.mapM (fun metric => forName metrics metric.name)

def policy (meter : Meter α) : Policy :=
  meter.kind.policy

variable [Scalar α]

def finalValue (meter : Meter α) (value : α) (count : Nat) : MetricValue α :=
  MetricValue.final meter.metric.name value count (meter.metric.violatedBy value)

def measureMethod (meter : Meter α) (name : String) (value : α) :
    Except Fault (Measurement α) :=
  (Measurement.new .method name).edit (Measurement.insertValue (meter.finalValue value 1))

/-- The measurement of a class. Of two methods with one name the first is kept. -/
def measureClass (meter : Meter α) (measured : ClassValue α) : Except Fault (Measurement α) :=
  (Measurement.new .type measured.name).edit (do
    Measurement.insertValue (meter.finalValue measured.value measured.count)
    measured.methods.forM (fun (name, value) => do
      let method ← meter.measureMethod name value
      let _ ← Measurement.addChild method))

def measure (meter : Meter α) (events : List Event) : Except Fault (List (Measurement α)) :=
  (meter.kind.classValues events).mapM meter.measureClass

def measureNotes (meter : Meter α) (events : List Event) : List (Note α) :=
  meter.kind.notes events ++
    (meter.kind.classValues events).map (fun measured =>
      .classMeasured meter.metric.name measured.name measured.value measured.count)

def overwrite (value : MetricValue α) : Edit (Measurement α) Unit := do
  match ← Measurement.editValue value.name (set value) with
  | some () => return ()
  | none => Measurement.insertValue value

/-- Takes what another unit says about the class being edited: its value is merged with the
one already there, and its methods replace those with their names. -/
def mergeClass (meter : Meter α) (incoming : MetricValue α)
    (methods : List (Measurement α)) : Edit (Measurement α) Unit := do
  match ← Measurement.editValue meter.metric.name
      (meter.policy.merge meter.metric incoming) with
  | some () => pure ()
  | none => Measurement.insertValue incoming
  methods.forM (fun method => do
    let _ ← Measurement.addChild method
    match method.value? meter.metric.name with
    | none => pure ()
    | some value => Measurement.editChild method.scope method.name (overwrite value))

def accumulateInto (meter : Meter α) (incoming : MetricValue α) :
    Edit (Measurement α) Unit := do
  let parent ← get
  if (parent.value? meter.metric.name).isNone then
    Measurement.insertValue (MetricValue.empty meter.metric.name)
  let _ ← Measurement.editValue meter.metric.name (meter.policy.accumulate incoming)

/-- Folds a final child into the measurement being edited: the child is added, or merged
with the one of its identity, and its value contributes to the value of the whole. A child
without a value of the metric is only added. -/
def fold (meter : Meter α) (child : Measurement α) : Edit (Measurement α) Unit := do
  match child.value? meter.metric.name with
  | none =>
      let _ ← Measurement.addChild child
  | some incoming =>
      let parent ← get
      let _ ← Measurement.addChild child
      if (parent.child? child.scope child.name).isSome then
        Measurement.editChild child.scope child.name
          (meter.mergeClass incoming child.children)
      meter.accumulateInto incoming

/-- Finalizes the value of the measurement being edited, once all parts are folded in.
There is nothing to do without a value. -/
def finalize (meter : Meter α) : Edit (Measurement α) Unit := do
  let _ ← Measurement.editValue meter.metric.name (meter.policy.finalize meter.metric)

def measureReading (meter : Meter α) (reading : Reading) :
    Except Fault (List (Measurement α)) := do
  match ← reading.events? with
  | none => return []
  | some events => meter.measure events

def foldReading (meter : Meter α) (reading : Reading) :
    Edit (Measurement α) (List (Measurement α)) := do
  match meter.measureReading reading with
  | .error fault => throw fault
  | .ok classes =>
      classes.forM meter.fold
      return classes

end Meter

end CrateMetrics
