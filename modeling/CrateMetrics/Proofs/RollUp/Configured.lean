/-
The meters of a configuration. A configuration that resolves gives metrics with different
names that are all known, and for such metrics there is one meter each.
-/

import CrateMetrics.Config
import CrateMetrics.Proofs.RollUp.Tree
import CrateMetrics.Proofs.Running
import Mathlib.Data.List.Nodup

namespace CrateMetrics

variable {α β γ : Type}

/-! ### Kinds of metrics -/

namespace MetricKind

theorem ofName?_metricName (kind : MetricKind) : ofName? kind.metricName = some kind := by
  cases kind <;> decide

theorem metricName_injective : Function.Injective metricName := by
  intro left right same
  have sameKind := congrArg ofName? same
  rw [ofName?_metricName, ofName?_metricName] at sameKind
  exact Option.some.inj sameKind

theorem covers_of_mem_classValues [Scalar α] {kind : MetricKind} {events : List Event}
    {measured : ClassValue α} (present : measured ∈ kind.classValues events) :
    1 ≤ measured.count := by
  cases kind with
  | complexity =>
      obtain ⟨⟨name, methods⟩, inTable, rfl⟩ := List.mem_map.mp present
      have nonempty := (List.mem_filter.mp inTable).2
      cases methods with
      | nil => cases nonempty
      | cons method rest => exact Nat.succ_le_succ (Nat.zero_le rest.length)
  | response =>
      obtain ⟨entry, _, rfl⟩ := List.mem_map.mp present
      exact Nat.le_refl 1
  | cohesion =>
      obtain ⟨members, _, rfl⟩ := List.mem_map.mp present
      exact Nat.le_refl 1

theorem covers_of_mem_flatMap [Scalar α] (kind : MetricKind) (units : List (List Event))
    (measured : ClassValue α) (inside : measured ∈ units.flatMap kind.classValues) :
    1 ≤ measured.count := by
  obtain ⟨events, _, byEvents⟩ := List.mem_flatMap.mp inside
  exact covers_of_mem_classValues byEvents

end MetricKind

/-! ### Metrics and their meters -/

/-- Metrics that can be measured, told apart by their names. -/
structure Metric.Known (metrics : List (Metric α)) : Prop where
  distinct : (metrics.map Metric.name).Nodup
  known : ∀ metric, metric ∈ metrics → ∃ kind : MetricKind, kind.metricName = metric.name

def Meter.ofMetric (metric : Metric α) : Meter α :=
  { kind := (MetricKind.ofName? metric.name).getD .complexity, metric }

theorem Meter.kind_ofMetric {metric : Metric α} {kind : MetricKind}
    (named : metric.name = kind.metricName) : (ofMetric metric).kind = kind := by
  unfold ofMetric
  rw [named, MetricKind.ofName?_metricName]
  rfl

theorem Meter.forName_eq {metrics : List (Metric α)} (known : Metric.Known metrics)
    {metric : Metric α} (present : metric ∈ metrics) :
    forName metrics metric.name = .ok (ofMetric metric) := by
  obtain ⟨kind, named⟩ := known.known metric present
  have found : Metric.find? metrics metric.name = some metric :=
    find?_key_of_mem known.distinct present
  unfold forName ofKind ofMetric
  rw [← named, MetricKind.ofName?_metricName]
  dsimp only
  rw [named, found]
  rfl

theorem Meter.all_eq {metrics : List (Metric α)} (known : Metric.Known metrics) :
    Meter.all metrics = .ok (metrics.map Meter.ofMetric) :=
  mapM_eq_ok_map (fun _ present => forName_eq known present)

theorem Config.names_of_resolve [Scalar α] {config : Config α} {metrics : List (Metric α)}
    (accepted : config.resolve = .ok metrics) :
    metrics.map Metric.name =
      (MetricKind.all.filter (fun kind => (config.table kind).enabled)).map
        MetricKind.metricName := by
  apply map_eq_map_of_mapM_eq_ok _ accepted
  intro kind metric resolved
  cases limited : (config.table kind).limit kind with
  | error fault =>
      rw [limited] at resolved
      cases resolved
  | ok limit =>
      rw [limited] at resolved
      cases resolved
      rfl

theorem Config.known_of_resolve [Scalar α] {config : Config α} {metrics : List (Metric α)}
    (accepted : config.resolve = .ok metrics) : Metric.Known metrics := by
  have names := config.names_of_resolve accepted
  constructor
  · rw [names]
    apply List.Nodup.map MetricKind.metricName_injective
    exact List.Nodup.filter _ (by decide)
  · intro metric present
    have named : metric.name ∈ metrics.map Metric.name := List.mem_map_of_mem present
    rw [names] at named
    obtain ⟨kind, _, isName⟩ := List.mem_map.mp named
    exact ⟨kind, isName⟩

end CrateMetrics
