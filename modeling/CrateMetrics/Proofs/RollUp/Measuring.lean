/-
Runs that measure units. A unit whose text does not parse is measured as nothing and leaves
its fault behind; under every schedule the same is folded into the package.
-/

import CrateMetrics.Proofs.RollUp.PackageTree
import CrateMetrics.Proofs.Running
import CrateMetrics.SourceUnit

namespace CrateMetrics

open Edit

variable {α β γ : Type}

namespace Reading

/-- Nothing is wrong with the reading but that its text may not parse. -/
def Sound (reading : Reading) : Prop :=
  ∀ fault, reading.events = .error fault → fault.isUnparsable = true

def parsed? (reading : Reading) : Option (List Event) :=
  match reading.events with
  | .ok events => some events
  | .error _ => none

theorem events?_eq {reading : Reading} (sound : reading.Sound) :
    reading.events? = .ok reading.parsed? := by
  unfold events? parsed?
  cases read : reading.events with
  | ok events => rfl
  | error fault => exact if_pos (sound fault read)

end Reading

theorem SourceUnit.sound_read [FrontEnd] (unit : SourceUnit) : unit.read.Sound := by
  intro fault failed
  change unit.tree.map _ = .error fault at failed
  unfold tree at failed
  cases tokens : Rust.Lexer.fileTokens? unit.source with
  | none =>
      rw [tokens] at failed
      cases failed
      rfl
  | some found =>
      rw [tokens] at failed
      dsimp only at failed
      cases file : Rust.Syntax.file? found with
      | none =>
          rw [file] at failed
          cases failed
          rfl
      | some tree =>
          rw [file] at failed
          cases failed

theorem SourceUnit.sound_of_mem_read [FrontEnd] {units : List SourceUnit} {unit : Reading}
    (inside : unit ∈ units.map SourceUnit.read) : unit.Sound := by
  obtain ⟨source, _, rfl⟩ := List.mem_map.mp inside
  exact source.sound_read

/-! ### Remarks -/

theorem Complexity.failed_not_mem_notes (method : Option String) (events : List Event)
    (fault : Fault) : (.failed fault : Note α) ∉ Complexity.notes method events := by
  induction events generalizing method with
  | nil => exact List.not_mem_nil
  | cons head rest ih =>
      cases head with
      | decision kind =>
          cases method with
          | none => exact ih none
          | some name =>
              intro present
              cases present with
              | tail _ later => exact ih (some name) later
      | enterMethod name => exact ih (some name)
      | exitMethod name => exact ih none
      | _ => exact ih method

theorem Cohesion.ClassMembers.failed_not_mem_placingNotes (members : ClassMembers)
    (pairs : List (Nat × Nat)) (components : List Component) (fault : Fault) :
    (.failed fault : Note α) ∉ members.placingNotes components pairs := by
  induction pairs generalizing components with
  | nil => exact List.not_mem_nil
  | cons pair rest ih =>
      intro present
      rcases List.mem_append.mp present with placed | later
      · unfold placeNotes at placed
        cases placed with
        | tail _ last =>
            have outcome := List.mem_singleton.mp last
            split at outcome
            · cases outcome
            · cases outcome
            · cases outcome
      · exact ih _ later

theorem MetricKind.failed_not_mem_notes (kind : MetricKind) (events : List Event)
    (fault : Fault) : (.failed fault : Note α) ∉ kind.notes events := by
  cases kind with
  | complexity => exact Complexity.failed_not_mem_notes none events fault
  | response => exact List.not_mem_nil
  | cohesion =>
      intro present
      obtain ⟨members, _, remarked⟩ := List.mem_flatMap.mp present
      unfold Cohesion.ClassMembers.lcom4Notes at remarked
      by_cases few : members.methods.length ≤ 1
      · rw [if_pos few] at remarked
        cases remarked
      · rw [if_neg few] at remarked
        exact members.failed_not_mem_placingNotes _ _ fault remarked

variable [Scalar α]

theorem Meter.failed_not_mem_measureNotes (meter : Meter α) (events : List Event)
    (fault : Fault) : .failed fault ∉ meter.measureNotes events := by
  intro present
  rcases List.mem_append.mp present with byKind | byClass
  · exact meter.kind.failed_not_mem_notes events fault byKind
  · obtain ⟨measured, _, impossible⟩ := List.mem_map.mp byClass
    cases impossible

namespace Analysis

/-- Every meter has its remarks and measures the classes. -/
theorem measureEvents_eq (meters : List (Meter α)) (events : List Event) :
    measureEvents meters events =
      { result := .ok (measuredIn meters events)
        notes := meters.flatMap (fun meter => meter.measureNotes events) } := by
  unfold measureEvents measuredIn
  induction meters with
  | nil => rfl
  | cons head rest ih =>
      have first : (do
          Run.report (head.measureNotes events)
          return (head, ← Run.of (head.measure events)) :
            Run α (Meter α × List (Measurement α))) =
          { result := .ok (head, head.classes events), notes := head.measureNotes events } := by
        rw [head.measure_eq]
        exact congrArg (Run.mk _) (List.append_nil _)
      rw [List.mapM_cons, ih, first]
      change Run.mk _ (_ ++ (_ ++ [])) = _
      rw [List.append_nil]
      rfl

theorem failures_measureEvents (meters : List (Meter α)) (events : List Event) :
    (measureEvents meters events).failures = [] := by
  rw [measureEvents_eq]
  refine Run.failures_of_silent (fun fault present => ?_)
  obtain ⟨meter, _, byMeter⟩ := List.mem_flatMap.mp present
  exact meter.failed_not_mem_measureNotes events fault byMeter

def measuredOf (meters : List (Meter α)) (reading : Reading) : Measured α :=
  match reading.parsed? with
  | none => []
  | some events => measuredIn meters events

theorem result_measureUnit (meters : List (Meter α)) {reading : Reading}
    (sound : reading.Sound) :
    (measureUnit meters reading).result = .ok (measuredOf meters reading) := by
  unfold measureUnit measuredOf
  rw [Reading.events?_eq sound]
  cases reading.parsed? with
  | none => rfl
  | some events => exact congrArg Run.result (measureEvents_eq meters events)

def foldedReading (meters : List (Meter α)) (package : Measurement α) (reading : Reading) :
    Measurement α :=
  match reading.parsed? with
  | none => package
  | some events => foldedUnit meters package events

theorem takes_foldReading (meters : List (Meter α)) (reading : Reading) {name : String}
    {package : Measurement α} (growing : Measurement.Growing .package name package) :
    Takes (foldMeasured (measuredOf meters reading)) package ()
        (foldedReading meters package reading) ∧
      Measurement.Growing .package name (foldedReading meters package reading) := by
  unfold measuredOf foldedReading
  cases reading.parsed? with
  | none => exact ⟨takes_pure () package, growing⟩
  | some events => exact takes_foldMeasured meters events growing

theorem foldl_foldedReading (meters : List (Meter α)) (package : Measurement α)
    (units : List Reading) :
    units.foldl (foldedReading meters) package =
      foldedUnits meters package (units.filterMap Reading.parsed?) := by
  rw [foldedUnits, List.foldl_filterMap]
  congr 1
  funext package reading
  unfold foldedReading
  cases reading.parsed? with
  | none => rfl
  | some events => rfl

theorem takes_foldReadings (meters : List (Meter α)) (name : String) (units : List Reading) :
    Takes ((units.map (measuredOf meters)).forM foldMeasured) (.new .package name) ()
      (foldedUnits meters (.new .package name) (units.filterMap Reading.parsed?)) := by
  rw [← foldl_foldedReading, List.forM_eq_forM, List.forM_map]
  exact (takes_forM (Measurement.Growing .package name) (foldedReading meters) _ units
    (fun reading _ package growing => takes_foldReading meters reading growing)
    (.new .package name) (Measurement.growing_new .package name)).1

/-- Measuring a package never breaks a rule of aggregation. -/
theorem takes_package {meters : List (Meter α)} (distinct : (metricNames meters).Nodup)
    (name : String) (units : List Reading) :
    Takes (do
      (units.map (measuredOf meters)).forM foldMeasured
      finalizeAll meters) (.new .package name) ()
      (packageTree meters name (units.filterMap Reading.parsed?)) := by
  refine (takes_foldReadings meters name units).bind (takes_finalizeAll distinct ?_)
  intro meter _ whole found
  exact (growing_foldedUnits name _ meters).collecting meter.metric.name whole found

theorem result_foldUnits (meters : List (Meter α)) {units : List Reading}
    (sound : ∀ unit, unit ∈ units → unit.Sound) (package : Measurement α) :
    (foldUnits meters package units).result =
      package.edit ((units.map (measuredOf meters)).forM foldMeasured) := by
  induction units generalizing package with
  | nil => rfl
  | cons head rest ih =>
      have later := ih (fun unit present => sound unit (List.Mem.tail head present))
      rw [foldUnits, Run.result_bind, result_measureUnit meters (sound head (List.Mem.head rest))]
      change (Run.of _ >>= fun folded => foldUnits meters folded rest).result =
        package.edit (do
          foldMeasured (measuredOf meters head)
          (rest.map (measuredOf meters)).forM foldMeasured)
      rw [Run.result_bind, Measurement.edit_bind]
      simp only [later]
      rfl

/-- What becomes of a package, whatever the order in which its units are measured. -/
theorem result_analyzeUnits (metrics : List (Metric α)) (name : String) {units : List Reading}
    (sound : ∀ unit, unit ∈ units → unit.Sound) :
    (analyzeUnits metrics name units).result =
      (Meter.all metrics >>= fun meters =>
        Measurement.edit (.new .package name) (do
          (units.map (measuredOf meters)).forM foldMeasured
          finalizeAll meters)) := by
  unfold analyzeUnits
  rw [Run.result_bind]
  change (Meter.all metrics >>= _) = _
  congr 1
  funext meters
  rw [Run.result_bind, result_foldUnits meters sound, Measurement.edit_bind]
  rfl

theorem result_analyzeUnitsIn (order : List Nat) (metrics : List (Metric α)) (name : String)
    {units : List Reading} (sound : ∀ unit, unit ∈ units → unit.Sound) :
    (analyzeUnitsIn order metrics name units).result =
      (analyzeUnits metrics name units).result := by
  rw [result_analyzeUnits metrics name sound]
  unfold analyzeUnitsIn
  rw [Run.result_bind]
  change (Meter.all metrics >>= _) = _
  congr 1
  funext meters
  have gathered : (Run.gather order (units.map (measureUnit meters))).result =
      .ok (units.map (measuredOf meters)) := by
    change (units.map (measureUnit meters)).mapM (fun run => run.result) = _
    rw [List.mapM_map]
    exact mapM_eq_ok_map (fun unit present => result_measureUnit meters (sound unit present))
  rw [Run.result_bind, gathered]
  rfl

/-- The faults that are left behind are those of units whose text does not parse. -/
theorem mem_failures_measureUnit {meters : List (Meter α)} {reading : Reading} {fault : Fault}
    (failed : fault ∈ (measureUnit meters reading).failures) :
    reading.events = .error fault ∧ fault.isUnparsable = true := by
  unfold measureUnit at failed
  rcases Run.mem_failures_bind failed with silent | ⟨_, failed⟩
  · cases silent
  rcases Run.mem_failures_bind failed with read | ⟨_, failed⟩
  · have remarked := Run.failed_mem_of_mem_failures read
    change .failed fault ∈ reading.failureNotes at remarked
    unfold Reading.failureNotes at remarked
    cases came : reading.events with
    | ok events =>
        rw [came] at remarked
        cases remarked
    | error other =>
        rw [came] at remarked
        by_cases unparsable : other.isUnparsable = true
        · simp only [if_pos unparsable, List.mem_singleton, Note.failed.injEq] at remarked
          rw [remarked]
          exact ⟨rfl, unparsable⟩
        · simp only [if_neg unparsable] at remarked
          cases remarked
  rcases Run.mem_failures_bind failed with silent | ⟨events?, failed⟩
  · cases silent
  cases events? with
  | none => cases failed
  | some events =>
      rw [failures_measureEvents] at failed
      cases failed

theorem mem_failures_measureUnit_of_error (meters : List (Meter α)) {reading : Reading}
    {fault : Fault} (failed : reading.events = .error fault)
    (unparsable : fault.isUnparsable = true) :
    fault ∈ (measureUnit meters reading).failures := by
  unfold measureUnit
  apply Run.mem_failures_bind_of_next rfl
  apply Run.mem_failures_bind_of_first
  have remarked : (reading.failureNotes : List (Note α)) = [.failed fault] := by
    unfold Reading.failureNotes
    rw [failed]
    exact if_pos unparsable
  rw [remarked]
  exact List.Mem.head []

theorem mem_failures_foldUnits {meters : List (Meter α)} {package : Measurement α}
    {units : List Reading} {fault : Fault}
    (failed : fault ∈ (foldUnits meters package units).failures) :
    ∃ unit, unit ∈ units ∧ unit.events = .error fault ∧ fault.isUnparsable = true := by
  induction units generalizing package with
  | nil => cases failed
  | cons head rest ih =>
      rw [foldUnits] at failed
      rcases Run.mem_failures_bind failed with first | ⟨measured, failed⟩
      · exact ⟨head, List.Mem.head rest, mem_failures_measureUnit first⟩
      rcases Run.mem_failures_bind failed with silent | ⟨folded, later⟩
      · cases silent
      obtain ⟨unit, present, byUnit⟩ := ih later
      exact ⟨unit, List.Mem.tail head present, byUnit⟩

theorem mem_failures_foldUnits_of_error (meters : List (Meter α)) {name : String}
    {package : Measurement α} (growing : Measurement.Growing .package name package)
    {units : List Reading} (sound : ∀ unit, unit ∈ units → unit.Sound) {unit : Reading}
    (present : unit ∈ units) {fault : Fault} (failed : unit.events = .error fault) :
    fault ∈ (foldUnits meters package units).failures := by
  induction units generalizing package with
  | nil => cases present
  | cons head rest ih =>
      rw [foldUnits]
      cases present with
      | head =>
          apply Run.mem_failures_bind_of_first
          exact mem_failures_measureUnit_of_error meters failed
            (sound unit (List.Mem.head rest) fault failed)
      | tail _ later =>
          have measured := result_measureUnit meters (sound head (List.Mem.head rest))
          have folds := takes_foldReading meters head growing
          have folded : (Run.of (package.edit (foldMeasured (measuredOf meters head))) :
              Run α (Measurement α)).result = .ok (foldedReading meters package head) :=
            Measurement.edit_eq folds.1
          apply Run.mem_failures_bind_of_next measured
          apply Run.mem_failures_bind_of_next folded
          exact ih folds.2 (fun unit present => sound unit (List.Mem.tail head present)) later

theorem mem_failures_analyzePackage {schedule : Schedule} {metrics : List (Metric α)}
    {package : PackageUnits} {fault : Fault}
    (failed : fault ∈ (analyzePackage schedule metrics package).failures) :
    ∃ unit, unit ∈ package.units ∧ unit.events = .error fault ∧ fault.isUnparsable = true := by
  cases schedule with
  | sequential =>
      rcases Run.mem_failures_bind failed with silent | ⟨meters, failed⟩
      · cases silent
      rcases Run.mem_failures_bind failed with folding | ⟨folded, silent⟩
      · exact mem_failures_foldUnits folding
      · cases silent
  | concurrent order =>
      rcases Run.mem_failures_bind failed with silent | ⟨meters, failed⟩
      · cases silent
      rcases Run.mem_failures_bind failed with gathering | ⟨measured, silent⟩
      · obtain ⟨run, present, byRun⟩ := Run.mem_failures_gather gathering
        obtain ⟨unit, isUnit, rfl⟩ := List.mem_map.mp present
        exact ⟨unit, isUnit, mem_failures_measureUnit byRun⟩
      · cases silent

/-- A schedule that gets to every unit. -/
def Schedule.Complete : Schedule → Prop
  | .sequential => True
  | .concurrent order => ∀ count position, position < count → position ∈ order count

theorem mem_failures_analyzePackage_of_error {schedule : Schedule} (complete : schedule.Complete)
    {metrics : List (Metric α)} (known : Metric.Known metrics) {package : PackageUnits}
    (sound : ∀ unit, unit ∈ package.units → unit.Sound) {unit : Reading}
    (present : unit ∈ package.units) {fault : Fault} (failed : unit.events = .error fault) :
    fault ∈ (analyzePackage schedule metrics package).failures := by
  have meters : (Run.of (Meter.all metrics) : Run α (List (Meter α))).result =
      .ok (metrics.map Meter.ofMetric) := Meter.all_eq known
  cases schedule with
  | sequential =>
      apply Run.mem_failures_bind_of_next meters
      apply Run.mem_failures_bind_of_first
      exact mem_failures_foldUnits_of_error _ (Measurement.growing_new .package package.name)
        sound present failed
  | concurrent order =>
      apply Run.mem_failures_bind_of_next meters
      apply Run.mem_failures_bind_of_first
      obtain ⟨position, bound, atPosition⟩ := List.mem_iff_getElem.mp present
      have found : (package.units.map (measureUnit (metrics.map Meter.ofMetric)))[position]? =
          some (measureUnit (metrics.map Meter.ofMetric) unit) := by
        rw [List.getElem?_map, List.getElem?_eq_getElem bound, atPosition]
        rfl
      exact Run.mem_failures_gather_of_mem found (complete _ position bound)
        (mem_failures_measureUnit_of_error _ failed (sound unit present fault failed))

/-- Measuring a package comes to its tree under every schedule. -/
theorem result_analyzePackage (schedule : Schedule) {metrics : List (Metric α)}
    (known : Metric.Known metrics) {package : PackageUnits}
    (sound : ∀ unit, unit ∈ package.units → unit.Sound) :
    (analyzePackage schedule metrics package).result =
      .ok (packageTree (metrics.map Meter.ofMetric) package.name
        (package.units.filterMap Reading.parsed?)) := by
  have distinct := metricNames_nodup known
  have sequential : (analyzeUnits metrics package.name package.units).result =
      .ok (packageTree (metrics.map Meter.ofMetric) package.name
        (package.units.filterMap Reading.parsed?)) := by
    rw [result_analyzeUnits metrics package.name sound, Meter.all_eq known]
    exact Measurement.edit_eq (takes_package distinct package.name package.units)
  cases schedule with
  | sequential => exact sequential
  | concurrent order =>
      exact (result_analyzeUnitsIn _ metrics package.name sound).trans sequential

/-- The package that units come to one after the other. -/
theorem result_analyzeUnits_read [FrontEnd] {metrics : List (Metric α)}
    (known : Metric.Known metrics) (name : String) (units : List SourceUnit) :
    (analyzeUnits metrics name (units.map SourceUnit.read)).result =
      .ok (packageTree (metrics.map Meter.ofMetric) name
        ((units.map SourceUnit.read).filterMap Reading.parsed?)) := by
  let package : PackageUnits := { name, units := units.map SourceUnit.read }
  have sound (unit : Reading) (inside : unit ∈ package.units) : unit.Sound :=
    SourceUnit.sound_of_mem_read inside
  exact result_analyzePackage .sequential known sound

end Analysis

end CrateMetrics
