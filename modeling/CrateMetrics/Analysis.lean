/-
Measuring packages and workspaces. The units of a package are measured one after the
other or in any other order, and always folded in the order they are listed; packages
roll up into the project.
-/

import CrateMetrics.Meter
import CrateMetrics.Run

namespace CrateMetrics

variable {α : Type} [Scalar α]

namespace Analysis

abbrev Measured (α : Type) := List (Meter α × List (Measurement α))

def measureEvents (meters : List (Meter α)) (events : List Event) : Run α (Measured α) :=
  meters.mapM (fun meter => do
    Run.report (meter.measureNotes events)
    return (meter, ← Run.of (meter.measure events)))

/-- Measures a unit with every meter. A unit that does not parse is remarked and measures
nothing. -/
def measureUnit (meters : List (Meter α)) (reading : Reading) : Run α (Measured α) := do
  Run.note (.measuringUnit reading.name)
  Run.report reading.failureNotes
  match ← Run.of reading.events? with
  | none => return []
  | some events => measureEvents meters events

def foldMeasured (measured : Measured α) : Edit (Measurement α) Unit :=
  measured.forM (fun (meter, classes) => classes.forM meter.fold)

def finalizeAll (meters : List (Meter α)) : Edit (Measurement α) Unit :=
  meters.forM Meter.finalize

def foldUnits (meters : List (Meter α)) (package : Measurement α) :
    List Reading → Run α (Measurement α)
  | [] => return package
  | reading :: rest => do
      let measured ← measureUnit meters reading
      let folded ← Run.of (package.edit (foldMeasured measured))
      foldUnits meters folded rest

def analyzeUnits (metrics : List (Metric α)) (name : String) (units : List Reading) :
    Run α (Measurement α) := do
  let meters ← Run.of (Meter.all metrics)
  let package ← foldUnits meters (.new .package name) units
  Run.of (package.edit (finalizeAll meters))

/-- Measures the units of a package in the given order of their positions, then folds what
was measured in the order of the list. -/
def analyzeUnitsIn (order : List Nat) (metrics : List (Metric α)) (name : String)
    (units : List Reading) : Run α (Measurement α) := do
  let meters ← Run.of (Meter.all metrics)
  let measured ← Run.gather order (units.map (measureUnit meters))
  Run.of (Measurement.edit (.new .package name) (do
    measured.forM foldMeasured
    finalizeAll meters))

def foldPackage (meters : List (Meter α)) (package : Measurement α) :
    Edit (Measurement α) Unit := do
  let _ ← Measurement.addChild package
  meters.forM (fun meter => do
    match package.value? meter.metric.name with
    | none => return ()
    | some value => meter.accumulateInto value)

def analyzeProject (metrics : List (Metric α)) (name : String)
    (packages : List (Measurement α)) : Except Fault (Measurement α) := do
  let meters ← Meter.all metrics
  Measurement.edit (.new .project name) (do
    packages.forM (foldPackage meters)
    finalizeAll meters)

structure PackageUnits where
  name : String
  units : List Reading

inductive Schedule where
  | sequential
  /-- In the order of positions that is given for each number of units. -/
  | concurrent (order : Nat → List Nat)

def analyzePackage (schedule : Schedule) (metrics : List (Metric α))
    (package : PackageUnits) : Run α (Measurement α) :=
  match schedule with
  | .sequential => analyzeUnits metrics package.name package.units
  | .concurrent order =>
      analyzeUnitsIn (order package.units.length) metrics package.name package.units

/-- Measures every package and rolls the results up to the project. -/
def analyzeWorkspace (schedule : Schedule) (metrics : List (Metric α)) (project : String)
    (packages : List PackageUnits) : Run α (Measurement α) := do
  Run.note (.analysingPackages packages.length)
  let measured ← packages.mapM (fun package => do
    Run.note (.measuringPackage package.name package.units.length)
    analyzePackage schedule metrics package)
  Run.of (analyzeProject metrics project measured)

end Analysis

end CrateMetrics
