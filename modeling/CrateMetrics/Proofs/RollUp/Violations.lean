/-
Violations of the whole. A mean keeps every bound that all its parts keep, and the highest value
is violated exactly if a part is. So a violated value of a package or project comes from a part
that is violated, and a run that fails for violations names a package to look at.
-/

import CrateMetrics.Program
import CrateMetrics.Proofs.RollUp.Marks
import CrateMetrics.Proofs.RollUp.Quantities
import Mathlib.Algebra.BigOperators.Ring.Finset
import Mathlib.Algebra.Order.BigOperators.Group.List

namespace CrateMetrics

open Measurement Analysis

variable {α : Type}

/-! ### Means within limits -/

namespace MetricValue

def totalCount (values : List (MetricValue ℚ)) : ℕ :=
  (values.map count).sum

def weightedSum (values : List (MetricValue ℚ)) : ℚ :=
  (values.map (fun value => value.value * (value.count : ℚ))).sum

variable {values : List (MetricValue ℚ)} {bound : ℚ}

private theorem sum_bound_mul_count (values : List (MetricValue ℚ)) (bound : ℚ) :
    (values.map (fun value => bound * (value.count : ℚ))).sum = bound * totalCount values := by
  rw [List.sum_map_mul_left, totalCount, Nat.cast_list_sum, List.map_map]
  rfl

theorem mean_le (covers : 0 < totalCount values)
    (below : ∀ value, value ∈ values → value.value ≤ bound) :
    weightedSum values / totalCount values ≤ bound := by
  rw [div_le_iff₀ (Nat.cast_pos.mpr covers), ← sum_bound_mul_count]
  apply List.sum_le_sum
  intro value present
  exact mul_le_mul_of_nonneg_right (below value present) (Nat.cast_nonneg value.count)

theorem le_mean (covers : 0 < totalCount values)
    (above : ∀ value, value ∈ values → bound ≤ value.value) :
    bound ≤ weightedSum values / totalCount values := by
  rw [le_div_iff₀ (Nat.cast_pos.mpr covers), ← sum_bound_mul_count]
  apply List.sum_le_sum
  intro value present
  exact mul_le_mul_of_nonneg_right (above value present) (Nat.cast_nonneg value.count)

theorem exists_above_of_mean (covers : 0 < totalCount values)
    (high : bound < weightedSum values / totalCount values) :
    ∃ value ∈ values, bound < value.value := by
  by_contra kept
  have below (value : MetricValue ℚ) (present : value ∈ values) : value.value ≤ bound :=
    not_lt.mp (fun above => kept ⟨value, present, above⟩)
  exact absurd high (not_lt.mpr (mean_le covers below))

theorem exists_below_of_mean (covers : 0 < totalCount values)
    (low : weightedSum values / totalCount values < bound) :
    ∃ value ∈ values, value.value < bound := by
  by_contra kept
  have above (value : MetricValue ℚ) (present : value ∈ values) : bound ≤ value.value :=
    not_lt.mp (fun below => kept ⟨value, present, below⟩)
  exact absurd low (not_lt.mpr (le_mean covers above))

end MetricValue

open MetricValue

/-- Where a weighted mean violates a limit, one of the values does so. -/
theorem Limit.exists_violatedBy_of_mean (limit : Limit ℚ) {values : List (MetricValue ℚ)}
    (covers : 0 < totalCount values)
    (violated : limit.violatedBy (weightedSum values / totalCount values) = true) :
    ∃ value ∈ values, limit.violatedBy value.value = true := by
  cases limit with
  | atMost max =>
      obtain ⟨value, present, high⟩ := exists_above_of_mean covers (of_decide_eq_true violated)
      exact ⟨value, present, decide_eq_true high⟩
  | atLeast min =>
      obtain ⟨value, present, low⟩ := exists_below_of_mean covers (of_decide_eq_true violated)
      exact ⟨value, present, decide_eq_true low⟩
  | between min max =>
      rcases Bool.or_eq_true_iff.mp violated with isLow | isHigh
      · obtain ⟨value, present, low⟩ := exists_below_of_mean covers (of_decide_eq_true isLow)
        exact ⟨value, present, Bool.or_eq_true_iff.mpr (Or.inl (decide_eq_true low))⟩
      · obtain ⟨value, present, high⟩ := exists_above_of_mean covers (of_decide_eq_true isHigh)
        exact ⟨value, present, Bool.or_eq_true_iff.mpr (Or.inr (decide_eq_true high))⟩

/-! ### What adds up -/

namespace Quantity

/-- The weighted value of a mean; what collects is the sum of weighted values. -/
def weight {meter : Meter ℚ} (average : meter.policy = .average) : Quantity meter ℚ where
  zero := 0
  add left right := left + right
  ofFinal value := value.value * (value.count : ℚ)
  ofCollecting whole := whole.value
  add_zero := Rat.add_zero
  add_comm := Rat.add_comm
  add_assoc := Rat.add_assoc
  merged {known incoming} finalKnown _ := by
    have covers : ((known.count + incoming.count : ℕ) : ℚ) ≠ 0 := by
      have atLeastOne := finalKnown.covers
      exact Nat.cast_ne_zero.mpr (by omega)
    rw [average]
    exact div_mul_cancel₀ _ covers
  accumulated whole part := by
    rw [average]
    rfl
  empty := Nat.cast_zero

/-- Whether there is a violation, where a whole is violated with a part. -/
def violation [Scalar α] {meter : Meter α} (worst : meter.policy = .worstOf) :
    Quantity meter Bool where
  zero := false
  add := or
  ofFinal value := value.violated
  ofCollecting whole := whole.violated
  add_zero := Bool.or_false
  add_comm := Bool.or_comm
  add_assoc := Bool.or_assoc
  merged _ _ := by
    rw [worst]
    rfl
  accumulated whole part := by
    rw [worst]
    rfl
  empty := rfl

theorem total_elements (meter : Meter ℚ) (values : List (MetricValue ℚ)) :
    (elements meter).total values = totalCount values :=
  List.foldr_map.symm

theorem total_weight {meter : Meter ℚ} (average : meter.policy = .average)
    (values : List (MetricValue ℚ)) : (weight average).total values = weightedSum values :=
  List.foldr_map.symm

theorem total_violation_iff [Scalar α] {meter : Meter α} (worst : meter.policy = .worstOf)
    (values : List (MetricValue α)) :
    (violation worst).total values = true ↔ ∃ value ∈ values, value.violated = true := by
  have anyOf : (violation worst).total values = values.any (fun value => value.violated) := by
    induction values with
    | nil => rfl
    | cons head rest ih => exact congrArg (or head.violated) ih
  rw [anyOf, List.any_eq_true]

end Quantity

/-! ### Nodes that follow from their parts -/

/-- The node has collected what its parts show for the metric, and is ready to be finalized. A
part of a mean is violated where its own value is. -/
structure Measurement.Gathered (meter : Meter ℚ) (node : Measurement ℚ) : Prop where
  collecting : ∀ whole, node.value? meter.metric.name = some whole → whole.Collecting
  balanced : ∀ {M : Type} (quantity : Quantity meter M), quantity.Balanced node
  judged : meter.policy = .average → ∀ part, part ∈ node.partValues meter.metric.name →
    part.violated = meter.metric.violatedBy part.value

namespace Measurement.Gathered

variable {meters : List (Meter ℚ)} {meter : Meter ℚ} (present : meter ∈ meters)
  (once : (metricNames meters).count meter.metric.name = 1) {node : Measurement ℚ}
  (gathered : node.Gathered meter)

include present once gathered

/-- A violated whole has a violated part. -/
theorem violated_part {value : MetricValue ℚ}
    (found : (finalizedTree meters node).value? meter.metric.name = some value)
    (violated : value.violated = true) :
    ∃ part ∈ node.partValues meter.metric.name, part.violated = true := by
  rw [← lookup_nil, lookup_finalizedTree_once present once] at found
  obtain ⟨whole, isWhole, rfl⟩ := Option.map_eq_some_iff.mp found
  rw [lookup_nil] at isWhole
  cases policy : meter.policy with
  | average =>
      have counts := gathered.balanced (Quantity.elements meter)
      have sums := gathered.balanced (Quantity.weight policy)
      rw [Quantity.Balanced, isWhole, Quantity.total_elements] at counts
      rw [Quantity.Balanced, isWhole, Quantity.total_weight] at sums
      have covers : 0 < totalCount (node.partValues meter.metric.name) := by
        rw [← counts]
        exact (gathered.collecting whole isWhole).covers
      have ofMean : meter.metric.limit.violatedBy
          (weightedSum (node.partValues meter.metric.name) /
            totalCount (node.partValues meter.metric.name)) = true := by
        rw [policy] at violated
        rw [← counts, ← sums]
        exact violated
      obtain ⟨part, isPart, breaks⟩ := meter.metric.limit.exists_violatedBy_of_mean covers ofMean
      exact ⟨part, isPart, (gathered.judged policy part isPart).trans breaks⟩
  | worstOf =>
      have any := gathered.balanced (Quantity.violation policy)
      rw [Quantity.Balanced, isWhole] at any
      rw [policy] at violated
      exact (Quantity.total_violation_iff policy _).mp (any.symm.trans violated)

/-- Where the worst value counts, a violated part makes the whole violated. -/
theorem violated_whole (worst : meter.policy = .worstOf) {part : MetricValue ℚ}
    (isPart : part ∈ node.partValues meter.metric.name) (violated : part.violated = true) :
    ∃ value, (finalizedTree meters node).value? meter.metric.name = some value ∧
      value.violated = true := by
  have any := gathered.balanced (Quantity.violation worst)
  rw [Quantity.Balanced,
    (Quantity.total_violation_iff worst _).mpr ⟨part, isPart, violated⟩] at any
  cases isWhole : node.value? meter.metric.name with
  | none =>
      rw [isWhole] at any
      cases any
  | some whole =>
      rw [isWhole] at any
      refine ⟨meter.policy.finalized meter.metric whole, ?_, ?_⟩
      · rw [← lookup_nil, lookup_finalizedTree_once present once, lookup_nil, isWhole]
        rfl
      · rw [worst]
        exact any

end Measurement.Gathered

/-! ### Packages and projects -/

namespace Analysis

variable {meters : List (Meter ℚ)} (distinct : (metricNames meters).Nodup) {meter : Meter ℚ}
  (present : meter ∈ meters) (name : String)

include distinct present

theorem gathered_foldedUnits (units : List (List Event)) :
    (foldedUnits meters (.new .package name) units).Gathered meter := by
  have growing := growing_foldedUnits name units meters
  refine ⟨growing.collecting meter.metric.name, fun quantity =>
    quantity.balanced_foldedUnits present distinct name units, ?_⟩
  intro average part isPart
  obtain ⟨child, isChild, shows⟩ := List.mem_filterMap.mp isPart
  have found : (foldedUnits meters (.new .package name) units).lookup meter.metric.name
      [child.name] = some part := by
    rw [lookup_cons, growing.tidy.part?_of_mem isChild]
    exact shows
  rw [lookup_foldedUnits distinct present] at found
  have marks := meter.marks_receivedAll child.name [] _ part found
  rw [average] at marks
  exact marks

theorem gathered_foldedPackages {packages : List (Measurement ℚ)}
    (apart : (packages.map Measurement.name).Nodup)
    (measured : ∀ package, package ∈ packages →
      ∃ own units, package = packageTree meters own units) :
    (packages.foldl (foldedPackage meters) (.new .project name)).Gathered meter := by
  have finished (package : Measurement ℚ) (isPackage : package ∈ packages) :
      ∃ own, Finished .package own package := by
    obtain ⟨own, units, rfl⟩ := measured package isPackage
    exact ⟨own, finished_packageTree own units meters⟩
  have growing := (takes_foldPackages name finished meters).2
  refine ⟨growing.collecting meter.metric.name, fun quantity =>
    quantity.balanced_foldedPackages present (count_metricNames distinct present) name apart, ?_⟩
  intro average part isPart
  have children : (packages.foldl (foldedPackage meters) (.new .project name)).children =
      packages := children_foldedPackages meters apart
  rw [partValues, children] at isPart
  obtain ⟨package, isPackage, shows⟩ := List.mem_filterMap.mp isPart
  obtain ⟨own, units, rfl⟩ := measured package isPackage
  have marks := marks_packageTree distinct present own units [] part shows
  rw [average] at marks
  exact marks

end Analysis

/-- The node comes of finalizing what was gathered from its parts, for each of the metrics. -/
def Measurement.Concluded (meters : List (Meter ℚ)) (node : Measurement ℚ) : Prop :=
  ∃ before, node = finalizedTree meters before ∧
    (∀ meter, meter ∈ meters → before.Gathered meter) ∧
    ∀ metric, metric ∉ metricNames meters → before.value? metric = none

namespace Measurement.Concluded

variable {meters : List (Meter ℚ)} (distinct : (metricNames meters).Nodup) {node : Measurement ℚ}
  (concluded : node.Concluded meters)

include distinct concluded

theorem violated_part {metric : String} {value : MetricValue ℚ}
    (found : node.value? metric = some value) (violated : value.violated = true) :
    ∃ child ∈ node.children, ∃ part, child.value? metric = some part ∧ part.violated = true := by
  obtain ⟨before, rfl, gathered, unknown⟩ := concluded
  by_cases named : metric ∈ metricNames meters
  · obtain ⟨meter, present, rfl⟩ := List.mem_map.mp named
    obtain ⟨part, isPart, breaks⟩ := (gathered meter present).violated_part present
      (count_metricNames distinct present) found violated
    obtain ⟨child, inside, shows⟩ := List.mem_filterMap.mp isPart
    rw [← children_finalizedTree meters] at inside
    exact ⟨child, inside, part, shows, breaks⟩
  · rw [← lookup_nil, lookup_finalizedTree_of_not_mem named, lookup_nil,
      unknown metric named] at found
    cases found

theorem violated_whole {meter : Meter ℚ} (present : meter ∈ meters)
    (worst : meter.policy = .worstOf) {child : Measurement ℚ} (inside : child ∈ node.children)
    {part : MetricValue ℚ} (shows : child.value? meter.metric.name = some part)
    (violated : part.violated = true) :
    ∃ value, node.value? meter.metric.name = some value ∧ value.violated = true := by
  obtain ⟨before, rfl, gathered, _⟩ := concluded
  rw [children_finalizedTree] at inside
  have isPart : part ∈ before.partValues meter.metric.name :=
    List.mem_filterMap.mpr ⟨child, inside, shows⟩
  exact (gathered meter present).violated_whole present (count_metricNames distinct present)
    worst isPart violated

end Measurement.Concluded

namespace Analysis

variable {meters : List (Meter ℚ)} (distinct : (metricNames meters).Nodup)

include distinct

theorem concluded_packageTree (name : String) (units : List (List Event)) :
    (packageTree meters name units).Concluded meters := by
  refine ⟨_, rfl, fun meter present => gathered_foldedUnits distinct present name units, ?_⟩
  intro metric unknown
  rw [← lookup_nil, lookup_foldedUnits_of_not_mem unknown, lookup_new]

/-- Methods have no value of cohesion. -/
theorem lookup_packageTree_method {meter : Meter ℚ} (present : meter ∈ meters)
    (cohesion : meter.kind = .cohesion) (name : String) (units : List (List Event))
    (className method : String) (rest : List String) :
    (packageTree meters name units).lookup meter.metric.name (className :: method :: rest) =
      none := by
  rw [lookup_packageTree_cons distinct _ _ present, Meter.receivedAll]
  refine List.foldlRecOn (motive := fun cell : Option (MetricValue ℚ) => cell = none) _ _ rfl ?_
  intro cell empty measured inside
  obtain ⟨events, _, byEvents⟩ := List.mem_flatMap.mp inside
  rw [cohesion] at byEvents
  obtain ⟨members, _, rfl⟩ := List.mem_map.mp byEvents
  rw [Meter.received, Meter.classReceived, lookup_cons, empty]
  exact ite_self none

variable [FrontEnd] (project : String) {packages : List (String × List SourceUnit)}
  (apart : (packages.map Prod.fst).Nodup)

include apart

theorem concluded_workspaceTree : (workspaceTree meters project packages).Concluded meters := by
  refine ⟨_, rfl, ?_, ?_⟩
  · intro meter present
    apply gathered_foldedPackages distinct present project (nodup_packageTrees meters apart)
    intro package isPackage
    obtain ⟨source, _, rfl⟩ := List.mem_map.mp isPackage
    exact ⟨_, _, rfl⟩
  · intro metric unknown
    rw [← lookup_nil, lookup_foldl_of_same (fun package _ project =>
      lookup_foldedPackage_of_not_mem unknown project package), lookup_new]

/-- Projects and packages follow from their parts. -/
theorem concluded_of_at {path : List String} {node : Measurement ℚ}
    (lies : (workspaceTree meters project packages).At path node) (short : path.length ≤ 1) :
    node.Concluded meters := by
  cases lies with
  | here => exact concluded_workspaceTree distinct project apart
  | inside isPackage rest =>
      rw [workspaceTree, children_projectTree meters project
        (nodup_packageTrees meters apart)] at isPackage
      obtain ⟨source, _, rfl⟩ := List.mem_map.mp isPackage
      cases rest with
      | here => exact concluded_packageTree distinct _ _
      | inside deeper further =>
          rw [List.length_cons, List.length_cons] at short
          omega

end Analysis

/-- Values of cohesion come from the meter of cohesion, and no lower than from classes. -/
private theorem cohesion_of_lookup [FrontEnd] {metrics : List (Metric ℚ)}
    (known : Metric.Known metrics) (project : String)
    (packages : List (String × List SourceUnit)) {path : List String}
    {part : MetricValue ℚ}
    (found : (workspaceTree (metrics.map Meter.ofMetric) project packages).lookup
      MetricKind.cohesion.metricName path = some part) (inside : path ≠ []) :
    path.length ≤ 2 ∧ ∃ meter ∈ metrics.map Meter.ofMetric,
      meter.metric.name = MetricKind.cohesion.metricName ∧ meter.policy = .worstOf := by
  have distinct := metricNames_nodup known
  cases path with
  | nil => exact absurd rfl inside
  | cons packageName rest =>
      rw [lookup_cons, part?_workspaceTree] at found
      obtain ⟨tree, isTree, byPackage⟩ := Option.bind_eq_some_iff.mp found
      obtain ⟨package, _, rfl⟩ := Option.map_eq_some_iff.mp isTree
      by_cases named : MetricKind.cohesion.metricName ∈ metricNames (metrics.map Meter.ofMetric)
      · obtain ⟨meter, present, isName⟩ := List.mem_map.mp named
        obtain ⟨metric, _, rfl⟩ := List.mem_map.mp present
        have cohesion : (Meter.ofMetric metric).kind = .cohesion := Meter.kind_ofMetric isName
        refine ⟨?_, _, present, isName, congrArg MetricKind.policy cohesion⟩
        cases rest with
        | nil => exact Nat.le_succ 1
        | cons className deeper =>
            cases deeper with
            | nil => exact Nat.le_refl 2
            | cons method further =>
                rw [← isName, lookup_packageTree_method distinct present cohesion] at byPackage
                cases byPackage
      · rw [lookup_packageTree_of_not_mem package.1 _ named] at byPackage
        cases byPackage

/-- Who fails a run for violations can say which packages have some. -/
private theorem violatingPackages_ne_nil {tree : Measurement α}
    (explained : ∀ value ∈ tree.values, value.violated = true →
      ∃ child ∈ tree.children, ∃ part ∈ child.values, part.violated = true)
    {options : CommandLine.Options} (fails : (Program.verdict options tree).exitCode = 1) :
    Program.violatingPackages tree ≠ [] := by
  have someViolated : tree.anyViolated = true := by
    unfold Program.verdict at fails
    by_cases asked : (options.failOnViolation && tree.anyViolated) = true
    · exact (Bool.and_eq_true_iff.mp asked).2
    · rw [if_neg asked] at fails
      cases fails
  have below : ∃ child ∈ tree.children, child.anyViolated = true := by
    rcases (anyViolated_iff tree).mp someViolated with ⟨value, isOwn, violated⟩ | inChild
    · obtain ⟨child, inside, part, isPart, breaks⟩ := explained value isOwn violated
      exact ⟨child, inside, (anyViolated_iff child).mpr (Or.inl ⟨part, isPart, breaks⟩)⟩
    · exact inChild
  obtain ⟨child, inside, violated⟩ := below
  exact List.ne_nil_of_mem (List.mem_map_of_mem (List.mem_filter.mpr ⟨inside, violated⟩))

/-- Under a configuration that resolves, and with different names of packages: a violated value
of a project or package has a violated part. For cohesion the converse holds, at every node. So
if a run fails for violations, there are packages to report. -/
theorem analyzeWorkspace_violations_have_parts [FrontEnd] {config : Config ℚ}
    {metrics : List (Metric ℚ)} (accepted : config.resolve = .ok metrics) (schedule : Schedule) (project : String)
    {packages : List (String × List SourceUnit)} (apart : (packages.map Prod.fst).Nodup) :
    ∃ tree, (analyzeWorkspace schedule metrics project
        (packages.map PackageUnits.ofSources)).result = .ok tree ∧
      Finished .project project tree ∧
      (∀ path node, tree.At path node → node.scope = .project ∨ node.scope = .package →
        ∀ value ∈ node.values, value.violated = true →
          ∃ child ∈ node.children, ∃ part ∈ child.values,
            part.name = value.name ∧ part.violated = true) ∧
      (∀ path node, tree.At path node → ∀ child ∈ node.children, ∀ part ∈ child.values,
        part.name = MetricKind.cohesion.metricName → part.violated = true →
          ∃ value ∈ node.values, value.name = part.name ∧ value.violated = true) ∧
      ∀ options, (Program.verdict options tree).exitCode = 1 →
        Program.violatingPackages tree ≠ [] := by
  have known := config.known_of_resolve accepted
  have distinct := metricNames_nodup known
  have finished := finished_workspaceTree (metrics.map Meter.ofMetric) project packages
  have explained (path : List String) (node : Measurement ℚ)
      (lies : (workspaceTree (metrics.map Meter.ofMetric) project packages).At path node)
      (whole : node.scope = .project ∨ node.scope = .package) (value : MetricValue ℚ)
      (isOwn : value ∈ node.values) (violated : value.violated = true) :
      ∃ child ∈ node.children, ∃ part ∈ child.values,
        part.name = value.name ∧ part.violated = true := by
    have short : path.length ≤ 1 := by
      have heights := finished.tidy.height_of_at lies
      have high : 2 ≤ node.scope.height := by
        rcases whole with isProject | isPackage
        · rw [isProject]
          decide
        · rw [isPackage]
          decide
      rw [finished.hasScope] at heights
      change 3 = _ at heights
      omega
    have found := (finished.tidy.of_at lies).value?_of_mem isOwn
    obtain ⟨child, inside, part, shows, breaks⟩ :=
      (concluded_of_at distinct project apart lies short).violated_part distinct found violated
    exact ⟨child, inside, part, List.mem_of_find?_eq_some shows, name_of_value? shows, breaks⟩
  refine ⟨_, result_analyzeWorkspace known schedule project packages, finished, explained, ?_, ?_⟩
  · intro path node lies child inside part isPart named violated
    have below := lies.child inside
    have shows := (finished.tidy.of_at below).value?_of_mem isPart
    have found := finished.tidy.lookup_of_at below part.name
    rw [shows, named] at found
    obtain ⟨short, meter, present, isName, worst⟩ := cohesion_of_lookup known project packages
      found (List.append_ne_nil_of_right_ne_nil path (List.cons_ne_nil child.name []))
    rw [List.length_append, List.length_singleton] at short
    have concluded := concluded_of_at distinct project apart lies (Nat.le_of_succ_le_succ short)
    rw [named, ← isName] at shows
    obtain ⟨value, isOwn, breaks⟩ :=
      concluded.violated_whole distinct present worst inside shows violated
    refine ⟨value, List.mem_of_find?_eq_some isOwn, ?_, breaks⟩
    rw [name_of_value? isOwn, isName, named]
  · intro options fails
    refine violatingPackages_ne_nil ?_ fails
    intro value isOwn violated
    obtain ⟨child, inside, part, isPart, _, breaks⟩ :=
      explained [] _ (At.here _) (Or.inl finished.hasScope) value isOwn violated
    exact ⟨child, inside, part, isPart, breaks⟩

/-- The methods of the first type share nothing, and neither of them decides anything. -/
def simplePackages : List (String × List SourceUnit) :=
  [("shapes",
      [{ name := "src/lib.rs", source := "impl Point { fn x() {} fn y() {} }" }]),
    ("colors", [{ name := "src/lib.rs", source := "trait Color { fn red() { if true {} } }" }])]

/-- Complexity is to lie between two and three. -/
def boundedComplexity : Config ℚ :=
  { complexity := { verification := .range, min := some 2, max := some 3 } }

theorem simplePackages_violations_have_parts :
    (simplePackages.map Prod.fst).Nodup ∧
      ∃ metrics, boundedComplexity.resolve = .ok metrics ∧
        ∃ tree, (analyzeWorkspace .sequential metrics "drawing"
            (simplePackages.map PackageUnits.ofSources)).result = .ok tree ∧
          let verdict := Program.verdict { failOnViolation := true } tree
          verdict.exitCode = 1 ∧ Program.violatingPackages tree ≠ [] := by
  have accepted : boundedComplexity.resolve = .ok _ := rfl
  have apart : (simplePackages.map Prod.fst).Nodup := by decide
  obtain ⟨tree, result, _, _, _, named⟩ :=
    analyzeWorkspace_violations_have_parts accepted .sequential "drawing" apart
  have fails : boundedComplexity.resolve.toOption.bind (fun metrics =>
      (analyzeWorkspace .sequential metrics "drawing"
        (simplePackages.map PackageUnits.ofSources)).result.toOption.map (fun tree =>
          (Program.verdict { failOnViolation := true } tree).exitCode)) = some 1 := by
    decide +kernel
  rw [accepted] at fails
  dsimp only [Except.toOption, Option.bind_some] at fails
  rw [result] at fails
  have exits := Option.some.inj fails
  exact ⟨apart, _, accepted, tree, result, exits, named _ exits⟩

end CrateMetrics
