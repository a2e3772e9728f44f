/-
The records of methods in the measurement of a class. Every method of the class counts in its
value, but of methods with one name only the first is recorded. Methods of different `impl` blocks
can have one name: the walk tells them apart neither by the arguments of the type nor by those of
the trait.
-/

import CrateMetrics.Proofs.RollUp.Exact
import CrateMetrics.Proofs.Walk.Decisions
import CrateMetrics.SourceUnit
import Mathlib.Algebra.BigOperators.Ring.Finset

namespace CrateMetrics

/-! ### First elements -/

section

variable {β γ : Type}

private theorem eraseDupsBy_map (made : β → γ) (same : γ → γ → Bool) (items : List β) :
    (items.map made).eraseDupsBy same =
      (items.eraseDupsBy (fun later first => same (made later) (made first))).map made := by
  cases items with
  | nil => rfl
  | cons head rest =>
      rw [List.map_cons, List.eraseDupsBy_cons, List.eraseDupsBy_cons, List.map_cons,
        List.filter_map, eraseDupsBy_map]
      rfl
termination_by items.length
decreasing_by exact Nat.lt_succ_of_le (List.length_filter_le _ _)

private theorem eraseDupsBy_sublist (same : β → β → Bool) (items : List β) :
    (items.eraseDupsBy same).Sublist items := by
  cases items with
  | nil => exact List.Sublist.refl []
  | cons head rest =>
      rw [List.eraseDupsBy_cons]
      exact ((eraseDupsBy_sublist same _).trans List.filter_sublist).cons_cons head
termination_by items.length
decreasing_by exact Nat.lt_succ_of_le (List.length_filter_le _ _)

/-- All elements stay exactly if no later one is the same as an earlier one. -/
private theorem eraseDupsBy_eq_self_iff (same : β → β → Bool) (items : List β) :
    items.eraseDupsBy same = items ↔
      items.Pairwise (fun first later => same later first = false) := by
  induction items with
  | nil => exact iff_of_true rfl List.Pairwise.nil
  | cons head rest ih =>
      have others : rest.filter (fun later => decide (same later head = false)) = rest ↔
          ∀ later ∈ rest, same later head = false := by
        simp only [List.filter_eq_self, decide_eq_true_eq]
      rw [List.eraseDupsBy_cons, List.pairwise_cons, ← ih, ← others, List.cons.injEq]
      constructor
      · rintro ⟨_, kept⟩
        have back := eraseDupsBy_sublist same
          (rest.filter (fun later => decide (same later head = false)))
        rw [kept] at back
        have all := List.filter_sublist.antisymm back
        rw [all] at kept
        exact ⟨all, kept⟩
      · rintro ⟨all, kept⟩
        exact ⟨rfl, all.symm ▸ kept⟩

end

namespace Measurement

variable {α : Type}

/-- Adding one measurement after the other adds the first of each identity that is new. -/
theorem foldl_addNew (parts children : List (Measurement α)) :
    parts.foldl addNew children =
      children ++ (parts.filter (fun part => !children.any (isNamed part.scope part.name))).eraseDupsBy
        (fun later first => isNamed later.scope later.name first) := by
  induction parts generalizing children with
  | nil => exact (List.append_nil children).symm
  | cons head rest ih =>
      rw [List.foldl_cons, ih, addNew, List.filter_cons]
      by_cases known : children.any (isNamed head.scope head.name) = true
      · rw [if_pos known, known]
        rfl
      · rw [if_neg known, eq_false_of_ne_true known, Bool.not_false, if_pos rfl,
          List.eraseDupsBy_cons, List.filter_filter, List.append_assoc, List.singleton_append]
        congr 4
        funext part
        rw [List.any_append, List.any_cons, List.any_nil, Bool.or_false, Bool.not_or]
        cases isNamed part.scope part.name head <;> simp

/-- The mean of the values of measurements. -/
def meanOf (parts : List (Measurement ℚ)) : ℚ :=
  let values := (parts.flatMap Measurement.values).map MetricValue.value
  values.sum / values.length

end Measurement

namespace Meter

variable {α : Type} [Scalar α] (meter : Meter α)

/-- Of the methods with one name the first is recorded. -/
theorem children_classMeasurement (measured : ClassValue α) :
    (meter.classMeasurement measured).children =
      (measured.methods.eraseDupsBy (fun later first => first.1 == later.1)).map
        (fun method => meter.methodMeasurement method.1 method.2) := by
  let parts := measured.methods.map (fun method => meter.methodMeasurement method.1 method.2)
  let others : List (Measurement α) := []
  have allNew : parts.filter (fun part =>
      !others.any (Measurement.isNamed part.scope part.name)) = parts :=
    List.filter_eq_self.mpr (fun _ _ => rfl)
  have added := Measurement.foldl_addNew parts others
  rw [allNew, List.foldl_map, List.nil_append, eraseDupsBy_map] at added
  exact added

end Meter

namespace Rust

namespace FoundMethod

def sameName (later first : FoundMethod) : Bool :=
  first.name == later.name

/-- Of methods with one name the first. -/
def firsts (methods : List FoundMethod) : List FoundMethod :=
  methods.eraseDupsBy sameName

/-- The record of a method: its complexity, as the value of one element. -/
def record (meter : Meter ℚ) (found : FoundMethod) : Measurement ℚ :=
  meter.methodMeasurement found.name found.complexity

/-- No method is dropped exactly if all names are different. -/
theorem firsts_eq_self_iff (methods : List FoundMethod) :
    firsts methods = methods ↔ (methods.map name).Nodup := by
  rw [firsts, eraseDupsBy_eq_self_iff, List.Nodup, List.pairwise_map]
  simp only [sameName, beq_eq_false_iff_ne]

theorem length_firsts_eq_iff (methods : List FoundMethod) :
    (firsts methods).length = methods.length ↔ (methods.map name).Nodup := by
  rw [← firsts_eq_self_iff]
  exact ⟨(eraseDupsBy_sublist sameName methods).eq_of_length, congrArg List.length⟩

/-- The values of the records are the complexities. -/
theorem meanOf_records (meter : Meter ℚ) (methods : List FoundMethod) :
    Measurement.meanOf (methods.map (record meter)) =
      ((methods.map complexity).sum : ℕ) / (methods.length : ℚ) := by
  have values : ((methods.map (record meter)).flatMap Measurement.values).map MetricValue.value =
      (methods.map complexity).map (Nat.cast : ℕ → ℚ) := by
    rw [List.flatMap_map, List.map_flatMap, List.map_map]
    exact List.map_eq_flatMap.symm
  rw [Measurement.meanOf, values, List.length_map, List.length_map, Nat.cast_list_sum]

end FoundMethod

namespace SourceFile

open FoundMethod

/-- The measurement of a class covers all of its methods in the file. Of those with one name the
first is recorded, so each has a record of its own exactly if all their names are different. Then
the value of the class is the mean of the values of the records. -/
theorem records_of_class (metric : Metric ℚ) (file : SourceFile) (module : List String)
    (className : String) :
    let meter := Meter.mk .complexity metric
    let found := file.methodsOf module className
    let mean : ℚ := ((found.map complexity).sum : ℕ) / (found.length : ℚ)
    let measured : Measurement ℚ :=
      { scope := .type
        name := className
        values := [meter.finalValue mean found.length]
        children := (firsts found).map (record meter) }
    (meter.measure (file.walk module)).map
          (List.filter (fun measured => measured.name == className)) =
        .ok (if found = [] then [] else [measured]) ∧
      (measured.children.length = found.length ↔ (found.map name).Nodup) ∧
      ((found.map name).Nodup →
        measured.values =
          [meter.finalValue (Measurement.meanOf measured.children) measured.children.length]) := by
  intro meter found mean measured
  refine ⟨?_, ?_, ?_⟩
  · have children : (meter.classMeasurement (classComplexity className found)).children =
        (firsts found).map (record meter) := by
      rw [meter.children_classMeasurement, classComplexity, Complexity.valueOf]
      dsimp only
      rw [eraseDupsBy_map, eraseDupsBy_map, List.map_map, List.map_map]
      rfl
    have values : (meter.classMeasurement (classComplexity className found)).values =
        [meter.finalValue mean found.length] := by
      exact values_classMeasurement meter className found
    have whole : meter.classMeasurement (classComplexity className found) = measured :=
      (Measurement.mk.injEq ..).mpr ⟨rfl, rfl, values, children⟩
    rw [meter.measure_eq, ← whole]
    exact congrArg Except.ok (filter_classes_complexity metric file module className)
  · rw [List.length_map]
    exact length_firsts_eq_iff found
  · intro distinct
    have all := (firsts_eq_self_iff found).mpr distinct
    change [meter.finalValue mean found.length] = [meter.finalValue
      (Measurement.meanOf ((firsts found).map (record meter))) ((firsts found).map _).length]
    rw [all, meanOf_records, List.length_map]

/-- A type has the same method for different arguments of it. -/
def gridUnit : SourceUnit :=
  { name := "src/lib.rs"
    source := "impl Grid<u8> { fn draw() {} } impl Grid<u16> { fn draw() { if true {} } }" }

def complexityMeter : Meter ℚ :=
  { kind := .complexity, metric := lowComplexity }

/-- What is measured of the classes of the unit. -/
def gridMeasurements : Except Fault (List (Measurement ℚ)) := do
  let file ← gridUnit.tree
  complexityMeter.measure (file.walk gridUnit.module)

/-- Both methods count in the class, and the first alone has a record. -/
theorem gridUnit_records_first_draw :
    gridMeasurements.toOption.map (List.map (fun measured =>
        (measured.values.map MetricValue.count, measured.children.map Measurement.name))) =
      some [([2], ["draw"])] ∧
    gridMeasurements.toOption.map (List.map (fun measured =>
        (measured.values.map MetricValue.value, Measurement.meanOf measured.children))) =
      some [([3 / 2], 1)] := by
  decide +kernel

end SourceFile

end Rust

end CrateMetrics
