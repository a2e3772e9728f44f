/-
Whole workspaces. Whatever the units hold, measuring a workspace under a configuration that
resolves comes to a tree of final values, and only texts that do not parse leave faults.
-/

import CrateMetrics.Proofs.RollUp.ProjectTree

namespace CrateMetrics.Analysis

open Edit Measurement

variable {α : Type} [Scalar α]

section

variable [FrontEnd]

def PackageUnits.ofSources (package : String × List SourceUnit) : PackageUnits :=
  { name := package.1, units := package.2.map SourceUnit.read }

/-- The events of those units that parse. -/
def parsedUnits (units : List SourceUnit) : List (List Event) :=
  units.filterMap (fun unit => unit.events.toOption)

def workspaceTree (meters : List (Meter α)) (project : String)
    (packages : List (String × List SourceUnit)) : Measurement α :=
  projectTree meters project
    (packages.map (fun package => packageTree meters package.1 (parsedUnits package.2)))

theorem part?_workspaceTree (meters : List (Meter α)) (project : String)
    (packages : List (String × List SourceUnit)) (name : String) :
    (workspaceTree meters project packages).part? name =
      (packages.find? (fun package => package.1 == name)).map (fun package =>
        packageTree meters package.1 (parsedUnits package.2)) := by
  have named : ((fun package : Measurement α => package.name == name) ∘
      fun package : String × List SourceUnit =>
        packageTree meters package.1 (parsedUnits package.2)) =
      fun package => package.1 == name := by
    funext package
    have finished := finished_packageTree package.1 (parsedUnits package.2) meters
    exact congrArg (· == name) finished.hasName
  rw [workspaceTree, part?_projectTree, List.find?_map, named]

theorem lookup_workspaceTree_of_not_mem {meters : List (Meter α)} {metric : String}
    (absent : metric ∉ metricNames meters) (project : String)
    (packages : List (String × List SourceUnit)) (path : List String) :
    (workspaceTree meters project packages).lookup metric path = none := by
  cases path with
  | nil =>
      rw [workspaceTree, projectTree, lookup_finalizedTree_of_not_mem absent,
        lookup_foldl_of_same (fun package _ project =>
          lookup_foldedPackage_of_not_mem absent project package), lookup_new]
  | cons part rest =>
      rw [lookup_cons, part?_workspaceTree]
      cases packages.find? (fun package => package.1 == part) with
      | none => rfl
      | some package => exact lookup_packageTree_of_not_mem package.1 _ absent rest

theorem nodup_packageTrees (meters : List (Meter α)) {packages : List (String × List SourceUnit)}
    (distinct : (packages.map Prod.fst).Nodup) :
    ((packages.map (fun package =>
      packageTree meters package.1 (parsedUnits package.2))).map Measurement.name).Nodup := by
  have names : (packages.map (fun package =>
      packageTree meters package.1 (parsedUnits package.2))).map Measurement.name =
      packages.map Prod.fst := by
    rw [List.map_map]
    exact List.map_congr_left (fun package _ =>
      (finished_packageTree package.1 (parsedUnits package.2) meters).hasName)
  rw [names]
  exact distinct

theorem finished_workspaceTree (meters : List (Meter α)) (project : String)
    (packages : List (String × List SourceUnit)) :
    Finished .project project (workspaceTree meters project packages) := by
  apply finished_projectTree
  intro package present
  obtain ⟨source, _, rfl⟩ := List.mem_map.mp present
  exact ⟨source.1, finished_packageTree source.1 _ meters⟩

omit [Scalar α] in
theorem filterMap_parsed?_read (units : List SourceUnit) :
    (units.map SourceUnit.read).filterMap Reading.parsed? = parsedUnits units := by
  rw [List.filterMap_map, parsedUnits]
  congr 1
  funext unit
  have sameEvents : unit.read.events = unit.events := rfl
  rw [Function.comp_apply, Reading.parsed?, sameEvents]
  cases unit.events with
  | error fault => rfl
  | ok events => rfl

variable {metrics : List (Metric α)} (known : Metric.Known metrics)

include known

variable (schedule : Schedule) (project : String) (packages : List (String × List SourceUnit))

private theorem result_measurePackage (package : PackageUnits)
    (present : package ∈ packages.map PackageUnits.ofSources) :
    (do
      Run.note (.measuringPackage package.name package.units.length)
      analyzePackage schedule metrics package : Run α (Measurement α)).result =
      .ok (packageTree (metrics.map Meter.ofMetric) package.name
        (package.units.filterMap Reading.parsed?)) := by
  obtain ⟨source, _, rfl⟩ := List.mem_map.mp present
  rw [Run.result_bind]
  exact result_analyzePackage schedule known
    (fun _ inside => SourceUnit.sound_of_mem_read inside)

/-- Measuring a workspace comes to its tree under every schedule. -/
theorem result_analyzeWorkspace :
    (analyzeWorkspace schedule metrics project (packages.map PackageUnits.ofSources)).result =
      .ok (workspaceTree (metrics.map Meter.ofMetric) project packages) := by
  have distinct := metricNames_nodup known
  have measured := mapM_eq_ok_map (result_measurePackage known schedule packages)
  have trees : (packages.map PackageUnits.ofSources).map (fun package =>
      packageTree (metrics.map Meter.ofMetric) package.name
        (package.units.filterMap Reading.parsed?)) =
      packages.map (fun package =>
        packageTree (metrics.map Meter.ofMetric) package.1 (parsedUnits package.2)) := by
    rw [List.map_map]
    apply List.map_congr_left
    intro package _
    exact congrArg _ (filterMap_parsed?_read package.2)
  have finished (package : Measurement α) (present : package ∈ packages.map (fun package =>
      packageTree (metrics.map Meter.ofMetric) package.1 (parsedUnits package.2))) :
      ∃ own, Finished .package own package := by
    obtain ⟨source, _, rfl⟩ := List.mem_map.mp present
    exact ⟨source.1, finished_packageTree source.1 _ _⟩
  unfold analyzeWorkspace
  rw [Run.result_bind]
  change (Run.result (_ >>= _)) = _
  rw [Run.result_bind, Run.result_mapM, measured, trees]
  exact analyzeProject_eq known project finished

private theorem mem_failures_analyzeWorkspace_of_error (complete : schedule.Complete)
    {package : String × List SourceUnit} (isPackage : package ∈ packages) {unit : SourceUnit}
    (isUnit : unit ∈ package.2) {fault : Fault} (failed : unit.events = .error fault) :
    fault ∈ (analyzeWorkspace schedule metrics project
      (packages.map PackageUnits.ofSources)).failures := by
  have present : PackageUnits.ofSources package ∈ packages.map PackageUnits.ofSources :=
    List.mem_map_of_mem isPackage
  apply Run.mem_failures_bind_of_next rfl
  apply Run.mem_failures_bind_of_first
  apply Run.mem_failures_mapM_of_mem (result_measurePackage known schedule packages) present
  apply Run.mem_failures_bind_of_next rfl
  exact mem_failures_analyzePackage_of_error complete known
    (fun _ inside => SourceUnit.sound_of_mem_read inside) (List.mem_map_of_mem isUnit) failed

omit known

private theorem mem_failures_analyzeWorkspace {fault : Fault}
    (failed : fault ∈ (analyzeWorkspace schedule metrics project
      (packages.map PackageUnits.ofSources)).failures) :
    fault.isUnparsable = true ∧
      ∃ package ∈ packages, ∃ unit ∈ package.2, unit.events = .error fault := by
  rcases Run.mem_failures_bind failed with silent | ⟨_, failed⟩
  · cases silent
  rcases Run.mem_failures_bind failed with measuring | ⟨_, silent⟩
  · obtain ⟨_, present, failed⟩ := Run.mem_failures_mapM measuring
    obtain ⟨package, isPackage, rfl⟩ := List.mem_map.mp present
    rcases Run.mem_failures_bind failed with silent | ⟨_, failed⟩
    · cases silent
    obtain ⟨_, isReading, byUnit, unparsable⟩ := mem_failures_analyzePackage failed
    obtain ⟨unit, isUnit, rfl⟩ := List.mem_map.mp isReading
    exact ⟨unparsable, package, isPackage, unit, isUnit, byUnit⟩
  · cases silent

def onlyParsed (package : String × List SourceUnit) : String × List SourceUnit :=
  (package.1, package.2.filter (fun unit => unit.events.toBool))

private theorem parsedUnits_onlyParsed (package : String × List SourceUnit) :
    parsedUnits (onlyParsed package).2 = parsedUnits package.2 := by
  unfold parsedUnits onlyParsed
  rw [List.filterMap_filter]
  congr 1
  funext unit
  cases unit.events with
  | error fault => rfl
  | ok events => rfl

/-- Under a configuration that resolves, measuring a workspace comes to a tree in which every
value is final and covers an element. Units that do not parse leave their faults behind, and
have no other effect. -/
theorem analyzeWorkspace_succeeds {config : Config α} {metrics : List (Metric α)}
    (accepted : config.resolve = .ok metrics) (schedule : Schedule) (project : String)
    (packages : List (String × List SourceUnit)) :
    let measure (packages : List (String × List SourceUnit)) : Run α (Measurement α) :=
      analyzeWorkspace schedule metrics project (packages.map PackageUnits.ofSources)
    (∃ tree, (measure packages).result = .ok tree ∧
      ∀ path node, tree.At path node →
        ∀ value, value ∈ node.values → value.pending = false ∧ 1 ≤ value.count) ∧
    (∀ fault, fault ∈ (measure packages).failures → fault.isUnparsable = true ∧
      ∃ package ∈ packages, ∃ unit ∈ package.2, unit.events = .error fault) ∧
    (schedule.Complete → ∀ package ∈ packages, ∀ unit ∈ package.2, ∀ fault,
      unit.events = .error fault → fault ∈ (measure packages).failures) ∧
    (measure (packages.map onlyParsed)).result = (measure packages).result := by
  intro measure
  have known := config.known_of_resolve accepted
  have result (packages : List (String × List SourceUnit)) :
      (measure packages).result =
        .ok (workspaceTree (metrics.map Meter.ofMetric) project packages) :=
    result_analyzeWorkspace known schedule project packages
  refine ⟨⟨_, result packages, ?_⟩, ?_, ?_, ?_⟩
  · intro path node lies value present
    have isFinal := (finished_workspaceTree _ project packages).final_of_at lies present
    exact ⟨isFinal.settled, isFinal.covers⟩
  · intro fault failed
    exact mem_failures_analyzeWorkspace schedule project packages failed
  · intro complete package isPackage unit isUnit fault failed
    exact mem_failures_analyzeWorkspace_of_error known schedule project packages complete
      isPackage isUnit failed
  · rw [result, result, workspaceTree, workspaceTree, List.map_map]
    congr 2
    apply List.map_congr_left
    intro package _
    exact congrArg (packageTree _ package.1) (parsedUnits_onlyParsed package)

end

/-- Two packages of one name, one of them with a text that is cut off. -/
def repeatedPackages : List (String × List SourceUnit) :=
  [("shapes",
      [{ name := "src/lib.rs", source := "struct Point;" },
       { name := "src/cut.rs", source := "impl Point" }]),
    ("shapes", [])]

theorem repeatedPackages_succeed :
    ∃ metrics, ({} : Config Float).resolve = .ok metrics ∧ Schedule.sequential.Complete ∧
      ∃ tree, (analyzeWorkspace .sequential metrics "drawing"
          (repeatedPackages.map PackageUnits.ofSources)).result = .ok tree ∧
        ∀ path node, tree.At path node →
          ∀ value, value ∈ node.values → value.pending = false ∧ 1 ≤ value.count := by
  have accepted : ({} : Config Float).resolve = .ok _ := rfl
  have succeeds := analyzeWorkspace_succeeds accepted .sequential "drawing" repeatedPackages
  exact ⟨_, accepted, trivial, succeeds.1⟩

end CrateMetrics.Analysis
