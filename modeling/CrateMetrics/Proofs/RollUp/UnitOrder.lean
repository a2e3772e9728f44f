/-
The order of units. With exact arithmetic a package and its classes come to the same values in
whatever order the units are folded in, and the same methods are found. But a method that several
units measure shows the last of its values, so there the order can be seen.
-/

import CrateMetrics.Proofs.RollUp.Commutation
import CrateMetrics.Proofs.RollUp.Independence
import CrateMetrics.Proofs.RollUp.Nodes
import CrateMetrics.Proofs.RollUp.Workspace

namespace CrateMetrics

open Measurement Analysis

/-! ### Cells -/

namespace Meter

variable (meter : Meter ℚ)

private theorem joined_right_comm (first second : ClassValue ℚ) (cell : Option (MetricValue ℚ)) :
    meter.joined (meter.incoming second) (some (meter.joined (meter.incoming first) cell)) =
      meter.joined (meter.incoming first) (some (meter.joined (meter.incoming second) cell)) := by
  cases cell with
  | none => exact Policy.merged_comm meter.policy meter.metric rfl rfl
  | some known => exact Policy.merged_right_comm meter.policy meter.metric known _ _

theorem received_right_comm {first second : ClassValue ℚ} (coversFirst : 1 ≤ first.count)
    (coversSecond : 1 ≤ second.count) {path : List String} (short : path.length ≤ 1)
    (cell : Option (MetricValue ℚ)) :
    meter.received second path (meter.received first path cell) =
      meter.received first path (meter.received second path cell) := by
  match path, short with
  | [], _ =>
      exact congrArg some
        (Policy.accumulated_right_comm meter.policy (cell.getD _) coversFirst coversSecond)
  | [className], _ =>
      unfold received classReceived
      by_cases isFirst : first.name = className
      · by_cases isSecond : second.name = className
        · simp only [if_pos isFirst, if_pos isSecond, joined_right_comm]
        · simp only [if_pos isFirst, if_neg isSecond]
      · simp only [if_neg isFirst]

/-- Packages and classes receive the same whatever the order. -/
theorem receivedAll_perm {classes others : List (ClassValue ℚ)} (permuted : classes.Perm others)
    (covers : ∀ measured, measured ∈ classes → 1 ≤ measured.count) {path : List String}
    (short : path.length ≤ 1) (cell : Option (MetricValue ℚ)) :
    meter.receivedAll path classes cell = meter.receivedAll path others cell := by
  apply permuted.foldl_eq'
  intro first isFirst second isSecond cell
  exact meter.received_right_comm (covers first isFirst) (covers second isSecond) short cell

end Meter

/-! ### Methods -/

namespace ClassValue

variable {α : Type} {classes others : List (ClassValue α)}

theorem methodValues_perm (permuted : classes.Perm others) (className method : String) :
    (methodValues classes className method).Perm (methodValues others className method) :=
  (permuted.filter _).filterMap _

/-- The last one of values that show the same shows it in every order. -/
private theorem map_getLast?_of_perm {values later : List α} (permuted : values.Perm later)
    {γ : Type} (shown : α → γ)
    (agree : ∀ first ∈ values, ∀ second ∈ values, shown first = shown second) :
    values.getLast?.map shown = later.getLast?.map shown := by
  by_cases empty : values = []
  · subst empty
    rw [permuted.nil_eq]
  · have nonempty : later ≠ [] := by
      rintro rfl
      exact empty permuted.eq_nil
    rw [List.getLast?_eq_some_getLast empty, List.getLast?_eq_some_getLast nonempty]
    have isValue : later.getLast nonempty ∈ values :=
      permuted.mem_iff.mpr (List.getLast_mem nonempty)
    exact congrArg some (agree _ (List.getLast_mem empty) _ isValue)

end ClassValue

/-! ### Packages -/

namespace Analysis

private theorem classValues_perm (kind : MetricKind) {units others : List (List Event)}
    (permuted : units.Perm others) :
    (units.flatMap (kind.classValues : List Event → List (ClassValue ℚ))).Perm
      (others.flatMap kind.classValues) :=
  permuted.flatMap_right kind.classValues

variable {meters : List (Meter ℚ)} (distinct : (metricNames meters).Nodup) {meter : Meter ℚ}
  (present : meter ∈ meters) (name : String)

include distinct present

theorem lookup_packageTree_perm {units others : List (List Event)} (permuted : units.Perm others)
    (path : List String) (short : path.length ≤ 1) :
    (packageTree meters name units).lookup meter.metric.name path =
      (packageTree meters name others).lookup meter.metric.name path := by
  have same := meter.receivedAll_perm (classValues_perm meter.kind permuted)
    (meter.kind.covers_of_mem_flatMap units) short none
  cases path with
  | nil => rw [lookup_packageTree_nil distinct _ _ present, same,
      lookup_packageTree_nil distinct _ _ present]
  | cons part rest => rw [lookup_packageTree_cons distinct _ _ present, same,
      lookup_packageTree_cons distinct _ _ present]

/-- Metrics are found at the same nodes, and cover as many elements. -/
private theorem count_lookup_packageTree_perm {units others : List (List Event)}
    (permuted : units.Perm others) (path : List String) :
    ((packageTree meters name units).lookup meter.metric.name path).map MetricValue.count =
      ((packageTree meters name others).lookup meter.metric.name path).map MetricValue.count := by
  match path with
  | [] => rw [lookup_packageTree_perm distinct present name permuted [] (Nat.zero_le 1)]
  | [className] =>
      rw [lookup_packageTree_perm distinct present name permuted [className] (Nat.le_refl 1)]
  | [className, method] =>
      have values := ClassValue.methodValues_perm
        (classValues_perm meter.kind permuted) className method
      rw [lookup_packageTree_methodValues distinct present,
        lookup_packageTree_methodValues distinct present, Option.map_map, Option.map_map]
      exact ClassValue.map_getLast?_of_perm values _ (fun _ _ _ _ => rfl)
  | className :: method :: part :: rest =>
      rw [lookup_packageTree_below distinct present, lookup_packageTree_below distinct present]

end Analysis

/-! ### The tree of a package -/

/-- The trees have nodes at the same paths, with values for the same metrics that cover as many
elements. -/
structure Measurement.SameNodes (tree other : Measurement ℚ) : Prop where
  nodes : ∀ path, (∃ node, tree.At path node) ↔ ∃ node, other.At path node
  metrics : ∀ path metric, (∃ value, tree.Holds path value ∧ value.name = metric) ↔
    ∃ value, other.Holds path value ∧ value.name = metric
  counts : ∀ path value twin, tree.Holds path value → other.Holds path twin →
    value.name = twin.name → value.count = twin.count

/-- What the units say about a method, in their order. -/
def MetricKind.methodValues [FrontEnd] (kind : MetricKind) (units : List SourceUnit)
    (className method : String) : List ℚ :=
  ClassValue.methodValues ((parsedUnits units).flatMap kind.classValues) className method

/-- All units that measure the method come to the same value. -/
def MetricKind.Unanimous [FrontEnd] (kind : MetricKind) (units : List SourceUnit)
    (className method : String) : Prop :=
  ∀ first ∈ kind.methodValues units className method,
    ∀ second ∈ kind.methodValues units className method, first = second

namespace Analysis

section

variable {meters : List (Meter ℚ)} (distinct : (metricNames meters).Nodup) (name : String)

include distinct

private theorem count_lookup_perm {units others : List (List Event)}
    (permuted : units.Perm others) (metric : String) (path : List String) :
    ((packageTree meters name units).lookup metric path).map MetricValue.count =
      ((packageTree meters name others).lookup metric path).map MetricValue.count := by
  by_cases named : metric ∈ metricNames meters
  · obtain ⟨meter, present, rfl⟩ := List.mem_map.mp named
    exact count_lookup_packageTree_perm distinct present name permuted path
  · rw [lookup_packageTree_of_not_mem name units named,
      lookup_packageTree_of_not_mem name others named]

private theorem sameNodes_packageTree {units others : List (List Event)}
    (permuted : units.Perm others) :
    (packageTree meters name units).SameNodes (packageTree meters name others) := by
  have counts := count_lookup_perm distinct name permuted
  have found (metric : String) (path : List String) :
      (∃ value, (packageTree meters name units).lookup metric path = some value) ↔
        ∃ value, (packageTree meters name others).lookup metric path = some value := by
    have same := congrArg Option.isSome (counts metric path)
    rw [Option.isSome_map, Option.isSome_map] at same
    rw [← Option.isSome_iff_exists, ← Option.isSome_iff_exists, same]
  have tidy := (finished_packageTree name units meters).tidy
  have tidyOther := (finished_packageTree name others meters).tidy
  constructor
  · intro path
    by_cases below : path = []
    · subst below
      exact ⟨fun _ => ⟨_, At.here _⟩, fun _ => ⟨_, At.here _⟩⟩
    · rw [exists_at_packageTree_iff meters name units below,
        exists_at_packageTree_iff meters name others below]
      exact exists_congr (fun metric => found metric path)
  · intro path metric
    rw [tidy.exists_holds_iff, tidyOther.exists_holds_iff]
    exact found metric path
  · intro path value twin holds holdsTwin sameName
    rw [tidy.holds_iff] at holds
    rw [tidyOther.holds_iff, ← sameName] at holdsTwin
    have same := counts value.name path
    rw [holds, holdsTwin] at same
    exact Option.some.inj same

/-- Where all units that measure a method agree on it, the order of units cannot be seen. -/
private theorem lookup_perm_of_unanimous [FrontEnd] {units others : List SourceUnit}
    (permuted : units.Perm others) (metric : String) (path : List String)
    (unanimous : ∀ className method, path = [className, method] →
      ∀ kind : MetricKind, kind.Unanimous units className method) :
    (packageTree meters name (parsedUnits units)).lookup metric path =
      (packageTree meters name (parsedUnits others)).lookup metric path := by
  have permutedEvents : (parsedUnits units).Perm (parsedUnits others) := permuted.filterMap _
  by_cases named : metric ∈ metricNames meters
  · obtain ⟨meter, present, rfl⟩ := List.mem_map.mp named
    match path with
    | [] => exact lookup_packageTree_perm distinct present name permutedEvents [] (Nat.zero_le 1)
    | [className] =>
        exact lookup_packageTree_perm distinct present name permutedEvents _ (Nat.le_refl 1)
    | [className, method] =>
        have values := ClassValue.methodValues_perm
          (classValues_perm meter.kind permutedEvents) className method
        rw [lookup_packageTree_methodValues distinct present,
          lookup_packageTree_methodValues distinct present]
        apply ClassValue.map_getLast?_of_perm values
        intro first isFirst second isSecond
        rw [unanimous className method rfl meter.kind first isFirst second isSecond]
    | className :: method :: part :: rest =>
        rw [lookup_packageTree_below distinct present, lookup_packageTree_below distinct present]
  · rw [lookup_packageTree_of_not_mem name _ named, lookup_packageTree_of_not_mem name _ named]

end

/-- Under a configuration that resolves, units in any order come to the same nodes with the same
metrics and counts, and to the same values everywhere but at methods on which units do not agree:
of the values that the units have for a method, its node shows the last. -/
theorem analyzeUnits_in_any_order [FrontEnd] {config : Config ℚ} {metrics : List (Metric ℚ)}
    (accepted : config.resolve = .ok metrics) (name : String) {units others : List SourceUnit}
    (permuted : units.Perm others) :
    ∃ tree other,
      (analyzeUnits metrics name (units.map SourceUnit.read)).result = .ok tree ∧
      (analyzeUnits metrics name (others.map SourceUnit.read)).result = .ok other ∧
      Finished .package name tree ∧ Finished .package name other ∧ tree.SameNodes other ∧
      (∀ path, (∀ className method, path = [className, method] →
          ∀ kind : MetricKind, kind.Unanimous units className method) →
        ∀ value, tree.Holds path value ↔ other.Holds path value) ∧
      ∀ metric ∈ metrics, ∀ kind : MetricKind, kind.metricName = metric.name →
        ∀ className method value, value.name = metric.name →
          (tree.Holds [className, method] value ↔
            ∃ last, (kind.methodValues units className method).getLast? = some last ∧
              value = MetricValue.final metric.name last 1 (metric.violatedBy last)) := by
  have known := config.known_of_resolve accepted
  have distinct := metricNames_nodup known
  have permutedEvents : (parsedUnits units).Perm (parsedUnits others) := permuted.filterMap _
  have tree := result_analyzeUnits_read known name units
  have other := result_analyzeUnits_read known name others
  rw [filterMap_parsed?_read] at tree other
  have finished := finished_packageTree name (parsedUnits units) (metrics.map Meter.ofMetric)
  have finishedOther := finished_packageTree name (parsedUnits others) (metrics.map Meter.ofMetric)
  refine ⟨_, _, tree, other, finished, finishedOther,
    sameNodes_packageTree distinct name permutedEvents, ?_, ?_⟩
  · intro path unanimous value
    rw [finished.tidy.holds_iff, finishedOther.tidy.holds_iff,
      lookup_perm_of_unanimous distinct name permuted value.name path unanimous]
  · intro metric isMetric kind named className method value isNamed
    have sameKind : (Meter.ofMetric metric).kind = kind := Meter.kind_ofMetric named.symm
    have shows := lookup_packageTree_methodValues distinct (List.mem_map_of_mem isMetric) name
      (parsedUnits units) className method
    rw [sameKind] at shows
    rw [finished.tidy.holds_iff, isNamed]
    rw [show (Meter.ofMetric metric).metric.name = metric.name from rfl] at shows
    rw [shows, Option.map_eq_some_iff]
    exact exists_congr (fun last => and_congr_right (fun _ => eq_comm))

/-- Two files implement the same method for different arguments of a type. -/
def gridUnits : List SourceUnit :=
  [{ name := "src/bytes.rs", source := "impl Grid<u8> { fn draw() {} }" },
    { name := "src/words.rs", source := "impl Grid<u16> { fn draw() { if true {} } }" }]

/-- Complexity is to be no higher than three halves. -/
def lowComplexity : Config ℚ :=
  { complexity := { max := some (3 / 2) } }

theorem gridUnits_in_any_order :
    gridUnits.Perm gridUnits.reverse ∧
      ∃ metrics, lowComplexity.resolve = .ok metrics ∧
        ∃ tree other,
          (analyzeUnits metrics "tiles" (gridUnits.map SourceUnit.read)).result = .ok tree ∧
          (analyzeUnits metrics "tiles" (gridUnits.reverse.map SourceUnit.read)).result =
            .ok other ∧
          tree.SameNodes other ∧
          (∀ value, tree.Holds [] value ↔ other.Holds [] value) ∧
          ∀ value, tree.Holds ["Grid"] value ↔ other.Holds ["Grid"] value := by
  have accepted : lowComplexity.resolve = .ok _ := rfl
  have permuted : gridUnits.Perm gridUnits.reverse := (List.reverse_perm gridUnits).symm
  obtain ⟨tree, other, measured, again, _, _, same, holds, _⟩ :=
    analyzeUnits_in_any_order accepted "tiles" permuted
  have package := holds [] (fun _ _ equal => nomatch equal)
  have grid := holds ["Grid"] (fun _ _ equal => nomatch equal)
  exact ⟨permuted, _, accepted, tree, other, measured, again, same, package, grid⟩

/-- The method has the value of the file that comes last. -/
theorem gridUnits_show_last_draw :
    gridUnits.Perm gridUnits.reverse ∧
      ∃ metrics, lowComplexity.resolve = .ok metrics ∧
        ∃ tree other,
          (analyzeUnits metrics "tiles" (gridUnits.map SourceUnit.read)).result = .ok tree ∧
          (analyzeUnits metrics "tiles" (gridUnits.reverse.map SourceUnit.read)).result =
            .ok other ∧
          (tree.lookup "cyclomatic_complexity" ["Grid", "draw"]).map
            (fun shown => (shown.value, shown.violated)) = some (2, true) ∧
          (other.lookup "cyclomatic_complexity" ["Grid", "draw"]).map
            (fun shown => (shown.value, shown.violated)) = some (1, false) := by
  have accepted : lowComplexity.resolve = .ok _ := rfl
  have known := lowComplexity.known_of_resolve accepted
  have tree := result_analyzeUnits_read known "tiles" gridUnits
  have other := result_analyzeUnits_read known "tiles" gridUnits.reverse
  refine ⟨(List.reverse_perm gridUnits).symm, _, accepted, _, _, tree, other, ?_⟩
  decide +kernel

end Analysis

end CrateMetrics
