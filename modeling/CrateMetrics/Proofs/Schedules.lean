/-
Schedules. Units that are measured in some other order come to the same package or the same
fault, and leave behind the faults of the same units, in the order in which they were measured.
-/

import CrateMetrics.Proofs.RollUp.Measuring

namespace CrateMetrics

variable {α β γ : Type}

/-- The fault that the unit leaves behind, if its text does not parse. -/
def Reading.faults (reading : Reading) : List Fault :=
  match reading.events with
  | .ok _ => []
  | .error fault => if fault.isUnparsable then [fault] else []

private theorem flatMap_range_getElem? (items : List β) (parts : β → List γ) :
    (List.range items.length).flatMap (fun position => (items[position]?).elim [] parts) =
      items.flatMap parts := by
  induction items with
  | nil => rfl
  | cons head rest ih =>
      rw [List.length_cons, List.range_succ_eq_map, List.flatMap_cons, List.flatMap_map,
        List.flatMap_cons, ← ih]
      rfl

/-- Working off the positions of a list in some order comes to the same parts in that order. -/
theorem perm_flatMap_of_order {order : List Nat} {items : List β}
    (isOrder : order.Perm (List.range items.length)) (parts : β → List γ) :
    (order.flatMap (fun position => (items[position]?).elim [] parts)).Perm
      (items.flatMap parts) :=
  (isOrder.flatMap_right _).trans (List.Perm.of_eq (flatMap_range_getElem? items parts))

namespace Analysis

variable [Scalar α]

/-! ### What is left behind -/

theorem failures_measureUnit (meters : List (Meter α)) {reading : Reading}
    (sound : reading.Sound) : (measureUnit meters reading).failures = reading.faults := by
  unfold measureUnit
  rw [Run.failures_bind_of_ok rfl, Run.failures_bind_of_ok rfl]
  unfold Reading.events? Reading.failureNotes Reading.faults
  cases read : reading.events with
  | ok events =>
      rw [Run.failures_bind_of_ok rfl]
      dsimp only
      rw [failures_measureEvents]
      rfl
  | error fault =>
      have unparsable := sound fault read
      simp only [if_pos unparsable]
      rfl

/-- Measuring stops at no unit, so each one leaves its fault behind. -/
theorem failures_foldUnits (meters : List (Meter α)) {units : List Reading}
    (sound : ∀ unit, unit ∈ units → unit.Sound) {name : String} {package : Measurement α}
    (growing : Measurement.Growing .package name package) :
    (foldUnits meters package units).failures = units.flatMap Reading.faults := by
  induction units generalizing package with
  | nil => rfl
  | cons head rest ih =>
      have soundHead := sound head (List.Mem.head rest)
      have folds := takes_foldReading meters head growing
      have folded : (Run.of (package.edit (foldMeasured (measuredOf meters head))) :
          Run α (Measurement α)).result = .ok (foldedReading meters package head) :=
        Measurement.edit_eq folds.1
      rw [foldUnits, Run.failures_bind_of_ok (result_measureUnit meters soundHead),
        failures_measureUnit meters soundHead, Run.failures_bind_of_ok folded,
        ih (fun unit present => sound unit (List.Mem.tail head present)) folds.2]
      rfl

section

variable {metrics : List (Metric α)} {meters : List (Meter α)}
  (isMeters : Meter.all metrics = .ok meters) (name : String) {units : List Reading}
  (sound : ∀ unit, unit ∈ units → unit.Sound)

include isMeters sound

theorem failures_analyzeUnits :
    (analyzeUnits metrics name units).failures = units.flatMap Reading.faults := by
  have first : (Run.of (Meter.all metrics) : Run α (List (Meter α))).result = .ok meters :=
    isMeters
  unfold analyzeUnits
  rw [Run.failures_bind_of_ok first, Run.failures_bind_of_silent _ (fun _ => rfl),
    failures_foldUnits meters sound (Measurement.growing_new .package name)]
  rfl

theorem failures_analyzeUnitsIn (order : List Nat) :
    (analyzeUnitsIn order metrics name units).failures =
      order.flatMap (fun position => (units[position]?).elim [] Reading.faults) := by
  have first : (Run.of (Meter.all metrics) : Run α (List (Meter α))).result = .ok meters :=
    isMeters
  unfold analyzeUnitsIn
  rw [Run.failures_bind_of_ok first, Run.failures_bind_of_silent _ (fun _ => rfl),
    Run.failures_gather]
  change order.flatMap _ = _
  congr 1
  funext position
  rw [List.getElem?_map]
  cases found : units[position]? with
  | none => rfl
  | some unit => exact failures_measureUnit meters (sound unit (List.mem_of_getElem? found))

end

/-! ### Orders of work -/

/-- For any metrics, also if one is listed twice or is unknown, and in whatever order the units
are measured: the package or the fault is the same as if they were measured one after the other,
and so are the faults that are left behind, up to their order. -/
theorem analyzeUnitsIn_agrees [FrontEnd] (metrics : List (Metric α)) (name : String)
    (units : List SourceUnit) {order : List Nat}
    (isOrder : order.Perm (List.range units.length)) :
    let concurrent := analyzeUnitsIn order metrics name (units.map SourceUnit.read)
    let sequential := analyzeUnits metrics name (units.map SourceUnit.read)
    concurrent.result = sequential.result ∧ concurrent.failures.Perm sequential.failures := by
  intro concurrent sequential
  have sound (unit : Reading) (inside : unit ∈ units.map SourceUnit.read) : unit.Sound :=
    SourceUnit.sound_of_mem_read inside
  refine ⟨result_analyzeUnitsIn order metrics name sound, ?_⟩
  cases isMeters : Meter.all metrics with
  | error fault =>
      have silent : concurrent.failures = [] ∧ sequential.failures = [] := by
        unfold concurrent sequential analyzeUnitsIn analyzeUnits
        rw [isMeters]
        exact ⟨rfl, rfl⟩
      rw [silent.1, silent.2]
  | ok meters =>
      rw [failures_analyzeUnitsIn isMeters name sound, failures_analyzeUnits isMeters name sound]
      apply perm_flatMap_of_order
      rw [List.length_map]
      exact isOrder

/-- Two texts that are cut off, with one between them that is not. -/
def brokenUnits : List SourceUnit :=
  [{ name := "src/lib.rs", source := "struct" },
   { name := "src/point.rs", source := "trait Point {}" },
   { name := "src/cut.rs", source := "impl Point" }]

/-- Measured by the same metric twice, so that finalizing fails. -/
theorem brokenUnits_agree :
    let twice : List (Metric Float) :=
      [{ name := "lcom4", limit := .atMost 1 }, { name := "lcom4", limit := .atLeast 2 }]
    let concurrent := analyzeUnitsIn [2, 0, 1] twice "shapes" (brokenUnits.map SourceUnit.read)
    let sequential := analyzeUnits twice "shapes" (brokenUnits.map SourceUnit.read)
    [2, 0, 1].Perm (List.range brokenUnits.length) ∧
      sequential.result.map (fun _ => ()) = .error (.invariant (.finalizedTwice "lcom4")) ∧
      concurrent.result = sequential.result ∧ concurrent.failures.Perm sequential.failures := by
  intro twice concurrent sequential
  have isOrder : [2, 0, 1].Perm (List.range brokenUnits.length) := by decide
  have fails : sequential.result.map (fun _ => ()) =
      .error (.invariant (.finalizedTwice "lcom4")) := by decide +kernel
  exact ⟨isOrder, fails, analyzeUnitsIn_agrees _ "shapes" brokenUnits isOrder⟩

end Analysis

end CrateMetrics
