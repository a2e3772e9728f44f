/-
Packages that roll up to a project. Where all of them have different names, none is lost: its
classes are in the project, its elements are counted there, and its violations are violations of
the project. Of packages with one name only the first is kept, but all of them are counted.
-/

import CrateMetrics.Proofs.RollUp.Exact
import CrateMetrics.Proofs.RollUp.Quantities

namespace CrateMetrics

open Edit Measurement

variable {α : Type}

/-- How many elements the value of a metric covers, none without a value. -/
def Measurement.countOf (metric : String) (tree : Measurement α) : ℕ :=
  (tree.value? metric).elim 0 MetricValue.count

variable [Scalar α]

namespace Analysis

/-! ### What was finalized -/

/-- What has a value after finalizing was measured once. -/
private theorem count_of_finalizeAll {meters : List (Meter α)} {before after : Measurement α}
    (finalizes : Takes (finalizeAll meters) before () after)
    (measured : ∀ metric, metric ∉ metricNames meters → before.lookup metric [] = none)
    {metric : String} {value : MetricValue α} (found : after.value? metric = some value) :
    (metricNames meters).count metric = 1 := by
  obtain ⟨rfl, once⟩ := once_of_finalizeAll finalizes
  rw [← lookup_nil] at found
  cases known : before.lookup metric [] with
  | none =>
      rw [lookup_finalizedTree_none meters known] at found
      cases found
  | some whole =>
      by_cases named : metric ∈ metricNames meters
      · obtain ⟨meter, present, rfl⟩ := List.mem_map.mp named
        exact (once meter present whole known).2
      · rw [measured metric named] at known
        cases known

/-- Packages that are measured are finished, whatever the metrics. -/
theorem finished_of_analyzeUnits [FrontEnd] {metrics : List (Metric α)} {meters : List (Meter α)}
    (isMeters : Meter.all metrics = .ok meters) {name : String} {units : List SourceUnit}
    {package : Measurement α}
    (measured : (analyzeUnits metrics name (units.map SourceUnit.read)).result = .ok package) :
    Finished .package name package ∧ ∀ metric value, package.value? metric = some value →
      (metricNames meters).count metric = 1 := by
  rw [result_analyzeUnits metrics name (fun _ inside => SourceUnit.sound_of_mem_read inside),
    isMeters] at measured
  obtain ⟨⟨⟩, folded, folds, finalizes⟩ := (takes_of_edit_eq measured).of_bind
  obtain ⟨_, rfl⟩ := (takes_foldReadings meters name _).unique folds
  constructor
  · rw [(once_of_finalizeAll finalizes).1]
    exact finished_packageTree name _ meters
  · intro metric value found
    refine count_of_finalizeAll finalizes ?_ found
    intro metric absent
    rw [lookup_foldedUnits_of_not_mem absent, lookup_new]

/-- A project comes of finalizing what its packages add up to. -/
theorem takes_of_analyzeProject {metrics : List (Metric α)} {meters : List (Meter α)}
    (isMeters : Meter.all metrics = .ok meters) {project : String}
    {packages : List (Measurement α)}
    (finished : ∀ package, package ∈ packages → ∃ own, Finished .package own package)
    {tree : Measurement α} (rolled : analyzeProject metrics project packages = .ok tree) :
    tree = projectTree meters project packages ∧
      ∀ metric value, tree.value? metric = some value → (metricNames meters).count metric = 1 := by
  unfold analyzeProject at rolled
  rw [isMeters] at rolled
  obtain ⟨⟨⟩, folded, folds, finalizes⟩ := (takes_of_edit_eq rolled).of_bind
  obtain ⟨_, rfl⟩ := (takes_foldPackages project finished meters).1.unique folds
  refine ⟨(once_of_finalizeAll finalizes).1, ?_⟩
  intro metric value found
  refine count_of_finalizeAll finalizes ?_ found
  intro metric absent
  rw [lookup_foldl_of_same (fun package _ project =>
    lookup_foldedPackage_of_not_mem absent project package), lookup_new]

/-! ### Counting elements -/

private theorem sum_countOf (meter : Meter α) (packages : List (Measurement α)) :
    (packages.map (countOf meter.metric.name)).sum =
      (Quantity.elements meter).total
        (packages.filterMap (fun package => package.value? meter.metric.name)) := by
  induction packages with
  | nil => rfl
  | cons head rest ih =>
      rw [List.map_cons, List.sum_cons, ih, Quantity.total_filterMap_cons]
      rfl

/-- The elements of all packages are counted, also those of repeated names. -/
theorem countOf_projectTree {meters : List (Meter α)} {meter : Meter α} (present : meter ∈ meters)
    (once : (metricNames meters).count meter.metric.name = 1) (project : String)
    (packages : List (Measurement α)) :
    (projectTree meters project packages).countOf meter.metric.name =
      (packages.map (countOf meter.metric.name)).sum := by
  have counts := ((Quantity.elements meter).ofWhole_foldedPackages present once packages
    (.new .project project)).trans (Quantity.zero_add _ _)
  have finalized := lookup_finalizedTree_once present once
    (packages.foldl (foldedPackage meters) (.new .project project))
  rw [sum_countOf, ← counts, countOf, projectTree, ← lookup_nil, finalized, lookup_nil]
  cases (packages.foldl (foldedPackage meters) (.new .project project)).value?
      meter.metric.name with
  | none => rfl
  | some whole => exact Policy.count_finalized meter.policy meter.metric whole

/-- Under any metrics for which packages can be measured and rolled up: the part of a project with
a name is the first package with this name, and all packages are counted. So where all names are
different, no class is lost, the counts of the project are those of its parts, and a package with
a violation makes the project have one. -/
theorem analyzeProject_keeps_packages [FrontEnd] {metrics : List (Metric α)} {project : String}
    {packages : List (Measurement α)} {tree : Measurement α}
    (measured : ∀ package ∈ packages, ∃ (name : String) (units : List SourceUnit),
      (analyzeUnits metrics name (units.map SourceUnit.read)).result = .ok package)
    (rolled : analyzeProject metrics project packages = .ok tree) :
    (∀ name, tree.part? name = packages.find? (fun package => package.name == name)) ∧
      (∀ metric, tree.countOf metric = (packages.map (countOf metric)).sum) ∧
      ((packages.map Measurement.name).Nodup →
        (∀ package ∈ packages, ∃ child ∈ tree.children, child.name = package.name ∧
          ∀ part ∈ package.children, part ∈ child.children) ∧
        (∀ metric, tree.countOf metric = (tree.children.map (countOf metric)).sum) ∧
        ((∃ package ∈ packages, package.anyViolated = true) → tree.anyViolated = true)) := by
  cases isMeters : Meter.all metrics with
  | error fault =>
      unfold analyzeProject at rolled
      rw [isMeters] at rolled
      cases rolled
  | ok meters =>
      have each (package : Measurement α) (present : package ∈ packages) :
          (∃ own, Finished .package own package) ∧ ∀ metric value,
            package.value? metric = some value → (metricNames meters).count metric = 1 := by
        obtain ⟨name, units, came⟩ := measured package present
        obtain ⟨finished, once⟩ := finished_of_analyzeUnits isMeters came
        exact ⟨⟨name, finished⟩, once⟩
      obtain ⟨rfl, onceTree⟩ := takes_of_analyzeProject isMeters
        (fun package present => (each package present).1) rolled
      have counts (metric : String) : (projectTree meters project packages).countOf metric =
          (packages.map (countOf metric)).sum := by
        by_cases once : (metricNames meters).count metric = 1
        · have named : metric ∈ metricNames meters :=
            List.count_pos_iff.mp (Nat.lt_of_lt_of_eq Nat.zero_lt_one once.symm)
          obtain ⟨meter, present, rfl⟩ := List.mem_map.mp named
          exact countOf_projectTree present once project packages
        · -- measured twice or not at all, it has no values: finalizing them would have failed
          have uncounted (node : Measurement α)
              (counted : ∀ value, node.value? metric = some value →
                (metricNames meters).count metric = 1) : node.countOf metric = 0 := by
            unfold countOf
            cases found : node.value? metric with
            | none => rfl
            | some value => exact absurd (counted value found) once
          rw [uncounted _ (onceTree metric)]
          refine (List.sum_eq_zero ?_).symm
          intro count isCount
          obtain ⟨package, present, rfl⟩ := List.mem_map.mp isCount
          exact uncounted package ((each package present).2 metric)
      refine ⟨part?_projectTree meters project packages, counts, ?_⟩
      intro distinct
      have children := children_projectTree meters project distinct
      rw [children]
      refine ⟨fun package present => ⟨package, present, rfl, fun _ inside => inside⟩, counts, ?_⟩
      rintro ⟨package, present, violated⟩
      rw [anyViolated_iff, children]
      exact Or.inr ⟨package, present, violated⟩

/-- The mean complexity is to be no higher than three halves. -/
def meanComplexity : List (Metric ℚ) :=
  [{ name := "cyclomatic_complexity", limit := .atMost (3 / 2) }]

def pointUnits : List SourceUnit :=
  [{ name := "src/lib.rs", source := "trait Point { fn draw() {} }" }]

def lineUnits : List SourceUnit :=
  [{ name := "src/lib.rs", source := "trait Line { fn draw() { if true {} } }" }]

private theorem known_meanComplexity : Metric.Known meanComplexity :=
  ⟨List.nodup_singleton _, fun metric present =>
    ⟨.complexity, by rw [List.mem_singleton.mp present]; rfl⟩⟩

def shownPackage (name : String) (units : List SourceUnit) : Measurement ℚ :=
  packageTree (meanComplexity.map Meter.ofMetric) name
    ((units.map SourceUnit.read).filterMap Reading.parsed?)

private theorem measures_shownPackage (name : String) (units : List SourceUnit) :
    (analyzeUnits meanComplexity name (units.map SourceUnit.read)).result =
      .ok (shownPackage name units) :=
  result_analyzeUnits_read known_meanComplexity name units

private theorem measured_shownPackages (first second : String) (units others : List SourceUnit)
    (package : Measurement ℚ)
    (present : package ∈ [shownPackage first units, shownPackage second others]) :
    ∃ (name : String) (units : List SourceUnit),
      (analyzeUnits meanComplexity name (units.map SourceUnit.read)).result = .ok package := by
  rcases List.mem_cons.mp present with isFirst | later
  · exact ⟨first, units, isFirst ▸ measures_shownPackage first units⟩
  · have isSecond := List.mem_singleton.mp later
    exact ⟨second, others, isSecond ▸ measures_shownPackage second others⟩

def shownProject (first second : Measurement ℚ) : Measurement ℚ :=
  projectTree (meanComplexity.map Meter.ofMetric) "drawing" [first, second]

private theorem rolls_up_shownProject (first second : String) (units others : List SourceUnit) :
    analyzeProject meanComplexity "drawing" [shownPackage first units, shownPackage second others] =
      .ok (shownProject (shownPackage first units) (shownPackage second others)) := by
  apply analyzeProject_eq known_meanComplexity
  intro package present
  rcases List.mem_cons.mp present with rfl | later
  · exact ⟨first, finished_packageTree first _ _⟩
  · rw [List.mem_singleton.mp later]
    exact ⟨second, finished_packageTree second _ _⟩

theorem namedApart_keep_packages :
    ∃ first second tree,
      (analyzeUnits meanComplexity "points" (pointUnits.map SourceUnit.read)).result = .ok first ∧
      (analyzeUnits meanComplexity "lines" (lineUnits.map SourceUnit.read)).result = .ok second ∧
      analyzeProject meanComplexity "drawing" [first, second] = .ok tree ∧
      ([first, second].map Measurement.name).Nodup ∧
      (∀ package ∈ [first, second], ∃ child ∈ tree.children, child.name = package.name ∧
        ∀ part ∈ package.children, part ∈ child.children) ∧
      tree.countOf "cyclomatic_complexity" =
        (tree.children.map (countOf "cyclomatic_complexity")).sum := by
  have points := measures_shownPackage "points" pointUnits
  have lines := measures_shownPackage "lines" lineUnits
  have project := rolls_up_shownProject "points" "lines" pointUnits lineUnits
  have measured := measured_shownPackages "points" "lines" pointUnits lineUnits
  have apart : ([shownPackage "points" pointUnits,
      shownPackage "lines" lineUnits].map Measurement.name).Nodup := by decide +kernel
  obtain ⟨kept, counted, _⟩ := (analyzeProject_keeps_packages measured project).2.2 apart
  exact ⟨_, _, _, points, lines, project, apart, kept, counted "cyclomatic_complexity"⟩

/-- Two packages of one name: the type of the second one is lost with its violation, but its
elements are counted. -/
theorem sameName_loses_package :
    ∃ first second tree,
      (analyzeUnits meanComplexity "shapes" (pointUnits.map SourceUnit.read)).result = .ok first ∧
      (analyzeUnits meanComplexity "shapes" (lineUnits.map SourceUnit.read)).result = .ok second ∧
      analyzeProject meanComplexity "drawing" [first, second] = .ok tree ∧
      second.children.map Measurement.name = ["Line"] ∧
      (tree.children.flatMap Measurement.children).map Measurement.name = ["Point"] ∧
      tree.countOf "cyclomatic_complexity" = 2 ∧
      (tree.children.map (countOf "cyclomatic_complexity")).sum = 1 ∧
      second.anyViolated = true ∧ tree.anyViolated = false := by
  refine ⟨_, _, _, measures_shownPackage "shapes" pointUnits,
    measures_shownPackage "shapes" lineUnits,
    rolls_up_shownProject "shapes" "shapes" pointUnits lineUnits, ?_⟩
  decide +kernel

end Analysis

end CrateMetrics
