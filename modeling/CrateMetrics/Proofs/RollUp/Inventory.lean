/-
What is in a package. Its classes are those for which an enabled metric has a value in some unit,
a class holds the values of exactly these metrics, and its methods are those that complexity lists
for it in some unit. Nothing is there twice, in however many units a class is found.
-/

import CrateMetrics.Proofs.RollUp.Independence
import CrateMetrics.Proofs.RollUp.Nodes
import CrateMetrics.Proofs.RollUp.Workspace

namespace CrateMetrics

open Measurement Analysis

variable {α : Type}

/-- The list holds exactly the names of which `isName` holds, each once. -/
def Enumerates (names : List String) (isName : String → Prop) : Prop :=
  names.Nodup ∧ ∀ name, name ∈ names ↔ isName name

/-! ### Names in trees -/

namespace Measurement

theorem mem_names_iff (tree : Measurement α) (name : String) :
    name ∈ tree.children.map Measurement.name ↔ ∃ node, tree.At [name] node := by
  constructor
  · intro present
    obtain ⟨child, isChild, rfl⟩ := List.mem_map.mp present
    exact ⟨child, At.inside isChild (At.here child)⟩
  · rintro ⟨node, lies⟩
    cases lies with
    | inside isChild _ => exact List.mem_map_of_mem isChild

theorem Tidy.mem_names_iff {tree child : Measurement α} (tidy : tree.Tidy)
    (present : child ∈ tree.children) (name : String) :
    name ∈ child.children.map Measurement.name ↔ ∃ node, tree.At [child.name, name] node := by
  rw [child.mem_names_iff]
  simp only [tidy.at_iff, (tidy.child present).at_iff, node?, tidy.part?_of_mem present,
    Option.bind_some]

theorem Tidy.mem_metrics_iff {tree child : Measurement α} (tidy : tree.Tidy)
    (present : child ∈ tree.children) (metric : String) :
    metric ∈ child.values.map MetricValue.name ↔
      ∃ value, tree.lookup metric [child.name] = some value := by
  have lies : tree.At [child.name] child := At.inside present (At.here child)
  rw [tidy.lookup_of_at lies, ← Option.isSome_iff_exists, value?, List.find?_isSome, List.mem_map]
  simp only [beq_iff_eq]

end Measurement

/-! ### What units say -/

namespace ClassValue

theorem exists_method?_iff (measured : ClassValue α) (method : String) :
    (∃ value, measured.method? method = some value) ↔ method ∈ measured.methods.map Prod.fst := by
  rw [← Option.isSome_iff_exists, method?, Option.isSome_map, List.find?_isSome, List.mem_map]
  simp only [beq_iff_eq]

theorem exists_getLast?_methodValues_iff (classes : List (ClassValue α))
    (className method : String) :
    (∃ value, (methodValues classes className method).getLast? = some value) ↔
      ∃ measured ∈ classes, measured.name = className ∧
        method ∈ measured.methods.map Prod.fst := by
  rw [← Option.isSome_iff_exists, List.getLast?_isSome]
  constructor
  · intro nonempty
    obtain ⟨value, present⟩ := List.exists_mem_of_ne_nil _ nonempty
    obtain ⟨measured, inside, told⟩ := List.mem_filterMap.mp present
    obtain ⟨isClass, named⟩ := List.mem_filter.mp inside
    have listed := (measured.exists_method?_iff method).mp ⟨value, told⟩
    exact ⟨measured, isClass, eq_of_beq named, listed⟩
  · rintro ⟨measured, isClass, named, listed⟩
    obtain ⟨value, told⟩ := (measured.exists_method?_iff method).mpr listed
    have inside : measured ∈ classes.filter (fun measured => measured.name == className) :=
      List.mem_filter.mpr ⟨isClass, beq_iff_eq.mpr named⟩
    exact List.ne_nil_of_mem (List.mem_filterMap.mpr ⟨measured, inside, told⟩)

end ClassValue

variable [Scalar α]

/-- The metric has a value for the class in one of the units that parse. -/
def MetricKind.Measures [FrontEnd] (α : Type) [Scalar α] (kind : MetricKind)
    (units : List SourceUnit) (className : String) : Prop :=
  ∃ events ∈ parsedUnits units, ∃ measured ∈ (kind.classValues events : List (ClassValue α)),
    measured.name = className

/-- Complexity lists the method for the class in one of the units that parse. -/
def Complexity.Lists [FrontEnd] (units : List SourceUnit) (className method : String) : Prop :=
  ∃ events ∈ parsedUnits units, ∃ methods,
    (className, methods) ∈ Complexity.methodsByClass events ∧ method ∈ methods.map Prod.fst

theorem MetricKind.measures_iff [FrontEnd] (kind : MetricKind) (units : List SourceUnit)
    (className : String) :
    kind.Measures α units className ↔
      ∃ measured ∈ ((parsedUnits units).flatMap kind.classValues : List (ClassValue α)),
        measured.name = className := by
  constructor
  · rintro ⟨events, isUnit, measured, byUnit, named⟩
    exact ⟨measured, List.mem_flatMap.mpr ⟨events, isUnit, byUnit⟩, named⟩
  · rintro ⟨measured, inside, named⟩
    obtain ⟨events, isUnit, byUnit⟩ := List.mem_flatMap.mp inside
    exact ⟨events, isUnit, measured, byUnit, named⟩

/-- Only complexity looks at methods one by one. -/
theorem MetricKind.exists_listed_iff [FrontEnd] (kind : MetricKind) (units : List SourceUnit)
    (className method : String) :
    (∃ measured ∈ ((parsedUnits units).flatMap kind.classValues : List (ClassValue α)),
        measured.name = className ∧ method ∈ measured.methods.map Prod.fst) ↔
      kind = .complexity ∧ Complexity.Lists units className method := by
  constructor
  · rintro ⟨measured, inside, rfl, listed⟩
    obtain ⟨events, isUnit, byUnit⟩ := List.mem_flatMap.mp inside
    cases kind with
    | complexity =>
        obtain ⟨⟨name, methods⟩, entry, rfl⟩ := List.mem_map.mp byUnit
        rw [List.map_map] at listed
        exact ⟨rfl, events, isUnit, methods, (List.mem_filter.mp entry).1, listed⟩
    | response =>
        obtain ⟨_, _, rfl⟩ := List.mem_map.mp byUnit
        cases listed
    | cohesion =>
        obtain ⟨_, _, rfl⟩ := List.mem_map.mp byUnit
        cases listed
  · rintro ⟨rfl, events, isUnit, methods, entry, listed⟩
    have nonempty : (!methods.isEmpty) = true := by
      cases methods with
      | nil => cases listed
      | cons head rest => rfl
    have byUnit : _ ∈ (Complexity.classValues events : List (ClassValue α)) :=
      List.mem_map_of_mem (List.mem_filter.mpr ⟨entry, nonempty⟩)
    refine ⟨_, List.mem_flatMap.mpr ⟨events, isUnit, byUnit⟩, rfl, ?_⟩
    rw [List.map_map]
    exact listed

/-! ### Cells with values -/

/-- The cell of a class has a value once a class of its name was folded in. -/
theorem Meter.exists_receivedAll_class_iff (meter : Meter α) (classes : List (ClassValue α))
    (className : String) (cell : Option (MetricValue α)) :
    (∃ value, meter.receivedAll [className] classes cell = some value) ↔
      (∃ measured ∈ classes, measured.name = className) ∨ ∃ value, cell = some value := by
  induction classes generalizing cell with
  | nil => simp [receivedAll]
  | cons head rest ih =>
      have step : meter.receivedAll [className] (head :: rest) cell =
          meter.receivedAll [className] rest (meter.received head [className] cell) := rfl
      rw [step, ih, received, List.exists_mem_cons_iff]
      by_cases here : head.name = className
      · simp [here, classReceived]
      · simp [here]

theorem Config.mem_names_iff {config : Config α} {metrics : List (Metric α)}
    (accepted : config.resolve = .ok metrics) (kind : MetricKind) :
    kind.metricName ∈ metrics.map Metric.name ↔ (config.table kind).enabled = true := by
  rw [config.names_of_resolve accepted,
    List.mem_map_of_injective MetricKind.metricName_injective, List.mem_filter]
  exact and_iff_right (by cases kind <;> decide)

namespace Analysis

section

variable [FrontEnd] {config : Config α} {metrics : List (Metric α)}
  (accepted : config.resolve = .ok metrics) (name : String) (units : List SourceUnit)

include accepted

/-- The cells at a path that have values are those of the enabled metrics that say something. -/
private theorem exists_lookup_iff {path : List String} {tells : MetricKind → Prop}
    (own : ∀ meter ∈ metrics.map Meter.ofMetric,
      (∃ value, (packageTree (metrics.map Meter.ofMetric) name
        (parsedUnits units)).lookup meter.metric.name path = some value) ↔ tells meter.kind)
    (metricName : String) :
    (∃ value, (packageTree (metrics.map Meter.ofMetric) name
        (parsedUnits units)).lookup metricName path = some value) ↔
      ∃ kind : MetricKind, (config.table kind).enabled = true ∧ kind.metricName = metricName ∧
        tells kind := by
  have known := config.known_of_resolve accepted
  constructor
  · intro found
    by_cases named : metricName ∈ metrics.map Metric.name
    · have isName := named
      obtain ⟨metric, isMetric, rfl⟩ := List.mem_map.mp named
      obtain ⟨kind, sameName⟩ := known.known metric isMetric
      have sayings := (own _ (List.mem_map_of_mem isMetric)).mp found
      rw [Meter.kind_ofMetric sameName.symm] at sayings
      rw [← sameName] at isName
      exact ⟨kind, (Config.mem_names_iff accepted kind).mp isName, sameName, sayings⟩
    · obtain ⟨value, isValue⟩ := found
      have absent : metricName ∉ metricNames (metrics.map Meter.ofMetric) := by
        rw [metricNames, List.map_map]
        exact named
      rw [lookup_packageTree_of_not_mem name _ absent] at isValue
      cases isValue
  · rintro ⟨kind, enabled, rfl, sayings⟩
    obtain ⟨metric, isMetric, sameName⟩ :=
      List.mem_map.mp ((Config.mem_names_iff accepted kind).mpr enabled)
    rw [← Meter.kind_ofMetric sameName] at sayings
    rw [← sameName]
    exact (own _ (List.mem_map_of_mem isMetric)).mpr sayings

theorem exists_lookup_class_iff (metricName className : String) :
    (∃ value, (packageTree (metrics.map Meter.ofMetric) name
        (parsedUnits units)).lookup metricName [className] = some value) ↔
      ∃ kind : MetricKind, (config.table kind).enabled = true ∧ kind.metricName = metricName ∧
        kind.Measures α units className := by
  apply exists_lookup_iff accepted
  intro meter isMeter
  have distinct := metricNames_nodup (config.known_of_resolve accepted)
  rw [lookup_packageTree_cons distinct name _ isMeter, Meter.exists_receivedAll_class_iff,
    MetricKind.measures_iff]
  exact or_iff_left (fun none => nomatch none)

theorem exists_lookup_method_iff (metricName className method : String) :
    (∃ value, (packageTree (metrics.map Meter.ofMetric) name
        (parsedUnits units)).lookup metricName [className, method] = some value) ↔
      ∃ kind : MetricKind, (config.table kind).enabled = true ∧ kind.metricName = metricName ∧
        kind = .complexity ∧ Complexity.Lists units className method := by
  apply exists_lookup_iff accepted
  intro meter isMeter
  have distinct := metricNames_nodup (config.known_of_resolve accepted)
  rw [lookup_packageTree_methodValues distinct isMeter, ← meter.kind.exists_listed_iff (α := α),
    ← ClassValue.exists_getLast?_methodValues_iff]
  simp only [← Option.isSome_iff_exists, Option.isSome_map]

end

/-- Under a configuration that resolves, measuring the units of a package comes to a tree that
holds, each exactly once: the classes for which an enabled metric has a value in some unit; for
each of them the values of these metrics; and the methods that complexity, if it is enabled, lists
for the class in some unit. -/
theorem analyzeUnits_enumerates [FrontEnd] {config : Config α} {metrics : List (Metric α)}
    (accepted : config.resolve = .ok metrics) (name : String) (units : List SourceUnit) :
    ∃ package, (analyzeUnits metrics name (units.map SourceUnit.read)).result = .ok package ∧
      Enumerates (package.children.map Measurement.name) (fun className =>
        ∃ kind : MetricKind, (config.table kind).enabled = true ∧
          kind.Measures α units className) ∧
      ∀ child ∈ package.children, child.scope = .type ∧
        Enumerates (child.values.map MetricValue.name) (fun metricName =>
          ∃ kind : MetricKind, (config.table kind).enabled = true ∧
            kind.metricName = metricName ∧ kind.Measures α units child.name) ∧
        Enumerates (child.children.map Measurement.name) (fun method =>
          (config.table .complexity).enabled = true ∧
            Complexity.Lists units child.name method) ∧
        ∀ method ∈ child.children, method.scope = .method := by
  have result := result_analyzeUnits_read (config.known_of_resolve accepted) name units
  rw [filterMap_parsed?_read] at result
  have finished := finished_packageTree name (parsedUnits units) (metrics.map Meter.ofMetric)
  have tidy := finished.tidy
  refine ⟨_, result, ⟨tidy.parts_nodup, ?_⟩, ?_⟩
  · intro className
    rw [mem_names_iff, exists_at_packageTree_iff _ _ _ (List.cons_ne_nil className [])]
    simp only [exists_lookup_class_iff accepted]
    constructor
    · rintro ⟨_, kind, enabled, rfl, measures⟩
      exact ⟨kind, enabled, measures⟩
    · rintro ⟨kind, enabled, measures⟩
      exact ⟨kind.metricName, kind, enabled, rfl, measures⟩
  · intro child isChild
    have tidyChild := tidy.child isChild
    have isType : child.scope = .type := by
      have finer := tidy.finer isChild
      rw [finished.hasScope] at finer
      exact (Option.some.inj finer).symm
    refine ⟨isType, ⟨tidyChild.values_nodup, ?_⟩, ⟨tidyChild.parts_nodup, ?_⟩, ?_⟩
    · intro metricName
      rw [tidy.mem_metrics_iff isChild, exists_lookup_class_iff accepted]
    · intro method
      rw [tidy.mem_names_iff isChild, exists_at_packageTree_iff _ _ _ (List.cons_ne_nil _ _)]
      simp only [exists_lookup_method_iff accepted]
      constructor
      · rintro ⟨_, kind, enabled, _, rfl, listed⟩
        exact ⟨enabled, listed⟩
      · rintro ⟨enabled, listed⟩
        exact ⟨_, .complexity, enabled, rfl, rfl, listed⟩
    · intro method isMethod
      have finer := tidyChild.finer isMethod
      rw [isType] at finer
      exact (Option.some.inj finer).symm

/-- A type without methods, a type whose methods are in two units, and a text that is cut off. -/
def mixedUnits : List SourceUnit :=
  [{ name := "src/lib.rs", source := "struct Line; impl Point { fn area() {} }" },
   { name := "src/cut.rs", source := "impl Circle" },
   { name := "src/draw.rs", source := "impl Point { fn draw() {} fn area() {} }" }]

def withoutResponse : Config Float :=
  { response := { enabled := false } }

theorem mixedUnits_enumerated :
    ∃ metrics package, withoutResponse.resolve = .ok metrics ∧
      (analyzeUnits metrics "shapes" (mixedUnits.map SourceUnit.read)).result = .ok package ∧
      Enumerates (package.children.map Measurement.name) (fun className =>
        ∃ kind : MetricKind, (withoutResponse.table kind).enabled = true ∧
          kind.Measures Float mixedUnits className) ∧
      package.children.map (fun child =>
          (child.name, child.values.map MetricValue.name, child.children.map Measurement.name)) =
        [("Point", ["cyclomatic_complexity", "lcom4"], ["area", "draw"]),
          ("Line", ["lcom4"], [])] := by
  have accepted : withoutResponse.resolve = .ok _ := rfl
  have known := withoutResponse.known_of_resolve accepted
  have result := result_analyzeUnits_read known "shapes" mixedUnits
  obtain ⟨package, measured, classes, _⟩ := analyzeUnits_enumerates accepted "shapes" mixedUnits
  have same := Except.ok.inj (result.symm.trans measured)
  subst same
  refine ⟨_, _, accepted, result, classes, ?_⟩
  decide +kernel

end Analysis

end CrateMetrics
