/-
Texts that do not parse. A workspace is measured as if such units were not there, whatever the
metrics and the schedule. When units are measured one after the other and the run comes to a result,
it leaves behind one fault for each of them, in their order.
-/

import CrateMetrics.Proofs.RollUp.Workspace
import CrateMetrics.Proofs.Schedules

namespace CrateMetrics

variable {α : Type}

/-! ### Units -/

namespace SourceUnit

variable [FrontEnd]

/-- Why the unit does not parse. -/
def failure? (unit : SourceUnit) : Option Fault :=
  match unit.events with
  | .ok _ => none
  | .error fault => some fault

theorem events_of_failure? {unit : SourceUnit} {fault : Fault}
    (failed : unit.failure? = some fault) : unit.events = .error fault := by
  unfold failure? at failed
  cases read : unit.events with
  | ok events =>
      rw [read] at failed
      cases failed
  | error other =>
      rw [read] at failed
      cases failed
      rfl

theorem faults_read (unit : SourceUnit) : unit.read.faults = unit.failure?.toList := by
  have sound := unit.sound_read
  have sameEvents : unit.read.events = unit.events := rfl
  unfold Reading.faults failure?
  rw [sameEvents]
  cases read : unit.events with
  | ok events => rfl
  | error fault => exact if_pos (sound fault read)

/-- The fault names the unit, and its message tells so. -/
theorem message_of_failure? {unit : SourceUnit} {fault : Fault}
    (failed : unit.failure? = some fault) :
    ∃ text, fault = .unparsable unit.name text ∧
      fault.message = s!"failed to parse {unit.name}: {text}" := by
  have broken : unit.tree.map (fun file => file.walk unit.module) = .error fault :=
    events_of_failure? failed
  unfold tree at broken
  cases split : Rust.Lexer.fileTokens? unit.source with
  | none =>
      rw [split] at broken
      cases broken
      exact ⟨_, rfl, rfl⟩
  | some tokens =>
      rw [split] at broken
      dsimp only at broken
      cases parsed : Rust.Syntax.file? tokens with
      | none =>
          rw [parsed] at broken
          cases broken
          exact ⟨_, rfl, rfl⟩
      | some file =>
          rw [parsed] at broken
          cases broken

end SourceUnit

namespace Analysis

variable [Scalar α]

/-- A unit that does not parse is measured as nothing, so nothing is folded in for it. -/
private theorem forM_foldMeasured_parsed [FrontEnd] (meters : List (Meter α))
    (units : List SourceUnit) :
    (((units.filter (fun unit => unit.events.toBool)).map SourceUnit.read).map
        (measuredOf meters)).forM foldMeasured =
      ((units.map SourceUnit.read).map (measuredOf meters)).forM foldMeasured := by
  induction units with
  | nil => rfl
  | cons head rest ih =>
      rw [List.filter_cons]
      cases read : head.events with
      | ok events => exact congrArg (fun later => foldMeasured _ >>= fun _ => later) ih
      | error fault =>
          have nothing : measuredOf meters head.read = [] := by
            unfold measuredOf Reading.parsed?
            rw [show head.read.events = .error fault from read]
          rw [if_neg (by simp [Except.toBool]), ih, List.map_cons, List.map_cons, nothing]
          change _ = (pure () >>= fun _ => _ : Edit (Measurement α) Unit)
          rw [pure_bind]

private theorem result_analyzePackage_parsed [FrontEnd] (schedule : Schedule)
    (metrics : List (Metric α)) (package : String × List SourceUnit) :
    (analyzePackage schedule metrics (.ofSources (onlyParsed package))).result =
      (analyzePackage schedule metrics (.ofSources package)).result := by
  have sound (units : List SourceUnit) (unit : Reading)
      (inside : unit ∈ units.map SourceUnit.read) : unit.Sound :=
    SourceUnit.sound_of_mem_read inside
  have sequential : (analyzeUnits metrics package.1
        ((onlyParsed package).2.map SourceUnit.read)).result =
      (analyzeUnits metrics package.1 (package.2.map SourceUnit.read)).result := by
    rw [result_analyzeUnits metrics package.1 (sound _),
      result_analyzeUnits metrics package.1 (sound _)]
    simp only [onlyParsed, forM_foldMeasured_parsed]
  cases schedule with
  | sequential => exact sequential
  | concurrent order =>
      exact (result_analyzeUnitsIn _ metrics package.1 (sound _)).trans
        (sequential.trans (result_analyzeUnitsIn _ metrics package.1 (sound _)).symm)

private theorem result_analyzeWorkspace_eq (schedule : Schedule) (metrics : List (Metric α))
    (project : String) (packages : List PackageUnits) :
    (analyzeWorkspace schedule metrics project packages).result =
      (packages.mapM (fun package => (analyzePackage schedule metrics package).result) >>=
        analyzeProject metrics project) := by
  unfold analyzeWorkspace
  rw [Run.result_bind]
  change (Run.result (_ >>= _)) = _
  rw [Run.result_bind, Run.result_mapM]
  rfl

private theorem flatMap_faults_read [FrontEnd] (units : List SourceUnit) :
    (units.map SourceUnit.read).flatMap Reading.faults =
      units.filterMap SourceUnit.failure? := by
  rw [List.flatMap_map, List.filterMap_eq_flatMap_toList]
  exact List.flatMap_congr (fun unit _ => unit.faults_read)

private theorem failures_measurePackage [FrontEnd] {metrics : List (Metric α)}
    {meters : List (Meter α)} (isMeters : Meter.all metrics = .ok meters) (package : String × List SourceUnit) :
    (do
      Run.note (.measuringPackage package.1 package.2.length)
      analyzePackage .sequential metrics (.ofSources package) : Run α (Measurement α)).failures =
      package.2.filterMap SourceUnit.failure? := by
  rw [Run.failures_bind_of_ok rfl, ← flatMap_faults_read]
  exact failures_analyzeUnits isMeters package.1
    (fun _ inside => SourceUnit.sound_of_mem_read inside)

/-- A project is rolled up only if there is a meter for every metric. -/
private theorem exists_meters_of_analyzeProject {metrics : List (Metric α)} {project : String}
    {packages : List (Measurement α)} {tree : Measurement α}
    (rolled : analyzeProject metrics project packages = .ok tree) :
    ∃ meters, Meter.all metrics = .ok meters := by
  unfold analyzeProject at rolled
  cases isMeters : Meter.all metrics with
  | ok meters => exact ⟨meters, rfl⟩
  | error fault =>
      rw [isMeters] at rolled
      cases rolled

private theorem failures_analyzeWorkspace_of_ok [FrontEnd] {metrics : List (Metric α)}
    {project : String} {packages : List (String × List SourceUnit)} {tree : Measurement α}
    (came : (analyzeWorkspace .sequential metrics project
      (packages.map PackageUnits.ofSources)).result = .ok tree) :
    (analyzeWorkspace .sequential metrics project
        (packages.map PackageUnits.ofSources)).failures =
      packages.flatMap (fun package => package.2.filterMap SourceUnit.failure?) := by
  unfold analyzeWorkspace at came ⊢
  rw [Run.result_bind] at came
  change (Run.result (_ >>= _)) = _ at came
  rw [Run.result_bind] at came
  rw [Run.failures_bind_of_ok rfl, Run.failures_bind_of_silent _ (fun _ => rfl)]
  cases measured : ((packages.map PackageUnits.ofSources).mapM (fun package => do
      Run.note (.measuringPackage package.name package.units.length)
      analyzePackage .sequential metrics package : PackageUnits → Run α (Measurement α))).result with
  | error fault =>
      rw [measured] at came
      cases came
  | ok trees =>
      rw [measured] at came
      obtain ⟨meters, isMeters⟩ := exists_meters_of_analyzeProject came
      rw [Run.failures_mapM_of_ok measured, List.flatMap_map]
      refine congrArg _ (List.flatMap_congr (fun package _ => ?_))
      have units : (PackageUnits.ofSources package).units.length = package.2.length :=
        List.length_map _
      rw [units]
      exact failures_measurePackage isMeters package

/-- Texts that do not parse change nothing in the outcome of a workspace, be it a tree or a fault.
If a run that measures one unit after the other comes to a tree, it leaves behind exactly the faults
of the units that do not parse, one each and in their order, with messages that name the units. -/
theorem analyzeWorkspace_without_unparsed [FrontEnd] (metrics : List (Metric α)) (project : String)
    (packages : List (String × List SourceUnit)) :
    let measure (schedule : Schedule) (packages : List (String × List SourceUnit)) :
        Run α (Measurement α) :=
      analyzeWorkspace schedule metrics project (packages.map PackageUnits.ofSources)
    (∀ schedule,
      (measure schedule (packages.map onlyParsed)).result = (measure schedule packages).result) ∧
    (∀ tree, (measure .sequential packages).result = .ok tree →
      (measure .sequential packages).failures =
        packages.flatMap (fun package => package.2.filterMap SourceUnit.failure?)) ∧
    ∀ (unit : SourceUnit) (fault : Fault), unit.failure? = some fault →
      ∃ text, fault = .unparsable unit.name text ∧
        fault.message = s!"failed to parse {unit.name}: {text}" := by
  intro measure
  refine ⟨?_, ?_, fun _ _ => SourceUnit.message_of_failure?⟩
  · intro schedule
    rw [result_analyzeWorkspace_eq, result_analyzeWorkspace_eq, List.map_map, List.mapM_map,
      List.mapM_map]
    congr 2
    funext package
    exact result_analyzePackage_parsed schedule metrics package
  · intro tree came
    exact failures_analyzeWorkspace_of_ok came

/-- Three texts that are cut off, in two packages, and one between them that is not. -/
def cutPackages : List (String × List SourceUnit) :=
  [("shapes",
      [{ name := "src/lib.rs", source := "struct Point(" },
       { name := "src/line.rs", source := "trait Line {}" },
       { name := "src/area.rs", source := "static AREA: [u8" }]),
    ("tiles",
      [{ name := "src/lib.rs", source := "fn draw(" }])]

theorem cutPackages_leave_three_faults :
    ∃ (metrics : List (Metric Float)) (tree : Measurement Float),
      ({} : Config Float).resolve = .ok metrics ∧
        (analyzeWorkspace .sequential metrics "drawing"
          (cutPackages.map PackageUnits.ofSources)).result = .ok tree ∧
        (analyzeWorkspace .sequential metrics "drawing"
          ((cutPackages.map onlyParsed).map PackageUnits.ofSources)).result = .ok tree ∧
        (analyzeWorkspace .sequential metrics "drawing"
          (cutPackages.map PackageUnits.ofSources)).failures.map Fault.message =
            ["failed to parse src/lib.rs: cannot parse string into token stream",
              "failed to parse src/area.rs: cannot parse string into token stream",
              "failed to parse src/lib.rs: cannot parse string into token stream"] := by
  have accepted : ({} : Config Float).resolve = .ok _ := rfl
  have known := Config.known_of_resolve accepted
  have result := result_analyzeWorkspace known .sequential "drawing" cutPackages
  obtain ⟨same, faults, _⟩ :=
    @analyzeWorkspace_without_unparsed Float _ _ _ "drawing" cutPackages
  refine ⟨_, _, accepted, result, (same .sequential).trans result, ?_⟩
  rw [faults _ result]
  decide +kernel

end Analysis

end CrateMetrics
