/-
Metrics side by side. What a package shows for a metric is what the meter of this metric makes
of the units on its own, whichever other metrics are measured with it, and in which order.
-/

import CrateMetrics.Proofs.RollUp.Measuring

namespace CrateMetrics

open Edit Measurement

variable {α : Type}

/-- The value is one of the node that the path of names leads to. -/
def Measurement.Holds (tree : Measurement α) (path : List String) (value : MetricValue α) :
    Prop :=
  ∃ node, tree.At path node ∧ value ∈ node.values

theorem Measurement.Tidy.holds_iff {tree : Measurement α} (tidy : tree.Tidy)
    (path : List String) (value : MetricValue α) :
    tree.Holds path value ↔ tree.lookup value.name path = some value := by
  constructor
  · rintro ⟨node, lies, present⟩
    rw [tidy.lookup_of_at lies]
    exact (tidy.of_at lies).value?_of_mem present
  · intro found
    obtain ⟨node, leads, isValue⟩ := Option.bind_eq_some_iff.mp found
    exact ⟨node, (tidy.at_iff path node).mpr leads, List.mem_of_find?_eq_some isValue⟩

theorem Measurement.Tidy.exists_holds_iff {tree : Measurement α} (tidy : tree.Tidy)
    (path : List String) (metric : String) :
    (∃ value, tree.Holds path value ∧ value.name = metric) ↔
      ∃ value, tree.lookup metric path = some value := by
  constructor
  · rintro ⟨value, holds, rfl⟩
    exact ⟨value, (tidy.holds_iff path value).mp holds⟩
  · rintro ⟨value, found⟩
    have named := name_of_lookup found
    subst named
    exact ⟨value, (tidy.holds_iff path value).mpr found, rfl⟩

variable [Scalar α]

namespace Meter

/-- The meter on its own: it takes in the units one after the other, then finalizes its value. -/
def measureAlone (meter : Meter α) (units : List Reading) : Edit (Measurement α) Unit := do
  units.forM (fun unit => do
    let _ ← meter.foldReading unit)
  meter.finalize

open Analysis

theorem measureReading_eq (meter : Meter α) {reading : Reading} (sound : reading.Sound) :
    meter.measureReading reading = .ok ((reading.parsed?.map meter.classes).getD []) := by
  unfold measureReading
  rw [Reading.events?_eq sound]
  cases reading.parsed? with
  | none => rfl
  | some events => exact meter.measure_eq events

private theorem takes_foldReading_alone (meter : Meter α) {reading : Reading}
    (sound : reading.Sound) {name : String} {package : Measurement α}
    (growing : Growing .package name package) :
    Takes (do let _ ← meter.foldReading reading) package ()
        (foldedReading [meter] package reading) ∧
      Growing .package name (foldedReading [meter] package reading) := by
  unfold foldReading foldedReading
  rw [meter.measureReading_eq sound]
  cases reading.parsed? with
  | none => exact ⟨takes_pure () package, growing⟩
  | some events =>
      have covers (measured : ClassValue α) (inside : measured ∈ meter.kind.classValues events) :
          1 ≤ measured.count := MetricKind.covers_of_mem_classValues inside
      have folds := meter.takes_foldClasses covers growing
      have returns : Takes (do (meter.classes events).forM meter.fold; pure (meter.classes events))
          package (meter.classes events) (foldedUnit [meter] package events) :=
        folds.1.bind (takes_pure _ _)
      exact ⟨returns.bind (takes_pure () _), folds.2⟩

theorem takes_measureAlone (meter : Meter α) (name : String) {units : List Reading}
    (sound : ∀ unit, unit ∈ units → unit.Sound) :
    Takes (meter.measureAlone units) (.new .package name) ()
      (packageTree [meter] name (units.filterMap Reading.parsed?)) := by
  have folds := (takes_forM (Growing .package name) (foldedReading [meter]) _ units
    (fun unit present _ growing => meter.takes_foldReading_alone (sound unit present) growing)
    (.new .package name) (growing_new .package name)).1
  rw [foldl_foldedReading] at folds
  refine folds.bind (takes_finalizeBy meter ?_)
  intro whole found
  exact (growing_foldedUnits name _ [meter]).collecting meter.metric.name whole found

end Meter

namespace Analysis

/-- The values of a metric come from its own meter only. -/
theorem lookup_packageTree_alone {meters : List (Meter α)} (distinct : (metricNames meters).Nodup)
    {meter : Meter α} (present : meter ∈ meters) (name : String) (units : List (List Event))
    (path : List String) :
    (packageTree meters name units).lookup meter.metric.name path =
      (packageTree [meter] name units).lookup meter.metric.name path := by
  have single : (metricNames [meter]).Nodup := List.nodup_singleton _
  have isSingle : meter ∈ [meter] := List.mem_singleton_self meter
  cases path with
  | nil =>
      rw [lookup_packageTree_nil distinct _ _ present, lookup_packageTree_nil single _ _ isSingle]
  | cons part rest =>
      rw [lookup_packageTree_cons distinct _ _ present, lookup_packageTree_cons single _ _ isSingle]

/-- What the package holds for a metric is what its meter alone makes of the units. -/
private theorem holds_packageTree_iff {metrics : List (Metric α)} (known : Metric.Known metrics)
    {metric : Metric α} (present : metric ∈ metrics) (name : String)
    (units : List (List Event)) (path : List String) {value : MetricValue α}
    (named : value.name = metric.name) :
    (packageTree (metrics.map Meter.ofMetric) name units).Holds path value ↔
      (packageTree [Meter.ofMetric metric] name units).Holds path value := by
  have distinct := metricNames_nodup known
  have tidy := (finished_packageTree name units (metrics.map Meter.ofMetric)).tidy
  have single : (metricNames [Meter.ofMetric metric]).Nodup := List.nodup_singleton _
  have tidyAlone := (finished_packageTree name units [Meter.ofMetric metric]).tidy
  have alone := lookup_packageTree_alone distinct (List.mem_map_of_mem present) name units path
  have sameName : (Meter.ofMetric metric).metric.name = value.name := named.symm
  rw [sameName] at alone
  rw [tidy.holds_iff, tidyAlone.holds_iff, alone]

/-- With known metrics that have different names, a package holds for each of them, at every
node, exactly the values that the meter of the metric makes of the units alone. Other metrics
can be added, left out or put in another order without a change to them. -/
theorem analyzeUnits_measures_apart [FrontEnd] {metrics : List (Metric α)}
    (known : Metric.Known metrics) {metric : Metric α} (present : metric ∈ metrics) (name : String)
    (units : List SourceUnit) :
    ∃ meter tree alone,
      Meter.forName metrics metric.name = .ok meter ∧
      (analyzeUnits metrics name (units.map SourceUnit.read)).result = .ok tree ∧
      Measurement.edit (.new .package name)
        (meter.measureAlone (units.map SourceUnit.read)) = .ok alone ∧
      Finished .package name tree ∧ Finished .package name alone ∧
      (∀ path value, value.name = metric.name →
        (tree.Holds path value ↔ alone.Holds path value)) ∧
      ∀ others, Metric.Known others → metric ∈ others → ∃ other,
        (analyzeUnits others name (units.map SourceUnit.read)).result = .ok other ∧
        ∀ path value, value.name = metric.name →
          (other.Holds path value ↔ tree.Holds path value) := by
  have sound (unit : Reading) (inside : unit ∈ units.map SourceUnit.read) : unit.Sound :=
    SourceUnit.sound_of_mem_read inside
  have alone := (Meter.ofMetric metric).takes_measureAlone name sound
  refine ⟨_, _, _, Meter.forName_eq known present, result_analyzeUnits_read known name units,
    Measurement.edit_eq alone, finished_packageTree name _ _, finished_packageTree name _ _,
    ?_, ?_⟩
  · intro path value named
    exact holds_packageTree_iff known present name _ path named
  · intro others knownOthers isOther
    refine ⟨_, result_analyzeUnits_read knownOthers name units, ?_⟩
    intro path value named
    exact (holds_packageTree_iff knownOthers isOther name _ path named).trans
      (holds_packageTree_iff known present name _ path named).symm

def complexityMetric : Metric Float :=
  { name := "cyclomatic_complexity", limit := .between 1 10 }

/-- Cohesion comes first, and adds types that complexity finds there. -/
def cohesionFirst : List (Metric Float) :=
  [{ name := "lcom4", limit := .atMost 1 }, complexityMetric]

/-- A type that is declared in one unit and has its methods in two others. -/
def scatteredUnits : List SourceUnit :=
  [{ name := "src/lib.rs", source := "struct Point;" },
   { name := "src/area.rs", source := "impl Point { fn area() {} }" },
   { name := "src/draw.rs", source := "impl Point { fn draw() { if true {} } }" }]

theorem scatteredUnits_measured_apart :
    Metric.Known cohesionFirst ∧ complexityMetric ∈ cohesionFirst ∧
      Metric.Known [complexityMetric] ∧
      ∃ meter tree alone other,
        Meter.forName cohesionFirst "cyclomatic_complexity" = .ok meter ∧
        (analyzeUnits cohesionFirst "shapes"
          (scatteredUnits.map SourceUnit.read)).result = .ok tree ∧
        Measurement.edit (.new .package "shapes")
          (meter.measureAlone (scatteredUnits.map SourceUnit.read)) = .ok alone ∧
        (analyzeUnits [complexityMetric] "shapes"
          (scatteredUnits.map SourceUnit.read)).result = .ok other ∧
        ∀ path value, value.name = "cyclomatic_complexity" →
          (tree.Holds path value ↔ alone.Holds path value) ∧
            (other.Holds path value ↔ tree.Holds path value) := by
  have known : Metric.Known cohesionFirst := by
    refine ⟨by decide, ?_⟩
    intro metric present
    rcases List.mem_cons.mp present with rfl | later
    · exact ⟨.cohesion, rfl⟩
    · exact ⟨.complexity, by rw [List.mem_singleton.mp later]; rfl⟩
  have knownAlone : Metric.Known [complexityMetric] :=
    ⟨List.nodup_singleton _, fun metric present =>
      ⟨.complexity, by rw [List.mem_singleton.mp present]; rfl⟩⟩
  have present : complexityMetric ∈ cohesionFirst :=
    List.mem_cons_of_mem _ (List.mem_singleton_self _)
  obtain ⟨meter, tree, alone, isMeter, measured, measuredAlone, _, _, same, among⟩ :=
    analyzeUnits_measures_apart known present "shapes" scatteredUnits
  obtain ⟨other, measuredOther, sameOther⟩ :=
    among [complexityMetric] knownAlone (List.mem_singleton_self _)
  exact ⟨known, present, knownAlone, meter, tree, alone, other, isMeter, measured, measuredAlone,
    measuredOther, fun path value named => ⟨same path value named, sameOther path value named⟩⟩

end Analysis

end CrateMetrics
