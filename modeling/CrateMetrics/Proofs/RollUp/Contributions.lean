/-
What lies under a node of the tree of a workspace. Each class that a unit tells about is one
contribution to the class, its package, and the project, and is counted there exactly once.
-/

import CrateMetrics.Proofs.RollUp.Exact
import CrateMetrics.Proofs.RollUp.Workspace

namespace CrateMetrics

open Measurement Analysis

def ClassValue.contribution (package : String) (measured : ClassValue ℚ) : Contribution :=
  { path := [package, measured.name], value := measured.value, count := measured.count }

/-! ### Cells of a package -/

section

variable (meter : Meter ℚ) {parts others : Multiset Contribution}

private theorem settles_incoming (package : String) {measured : ClassValue ℚ}
    (covers : 1 ≤ measured.count) :
    meter.policy.Settles {measured.contribution package} (some (meter.incoming measured)) := by
  have positive : (measured.count : ℚ) ≠ 0 := by
    have nonzero : measured.count ≠ 0 := by omega
    exact Nat.cast_ne_zero.mpr nonzero
  refine ⟨covers, (Multiset.sum_singleton _).symm, ?_⟩
  cases meter.policy with
  | average =>
      change measured.value = _ / _
      rw [Contribution.weightedSum, Contribution.totalCount, Multiset.map_singleton,
        Multiset.map_singleton, Multiset.sum_singleton, Multiset.sum_singleton]
      exact (mul_div_cancel_right₀ _ positive).symm
  | worstOf =>
      refine ⟨⟨_, Multiset.mem_singleton_self _, rfl⟩, ?_⟩
      rintro other ⟨part, present, rfl⟩
      rw [Multiset.mem_singleton.mp present]
      exact le_refl _

private theorem collects_receivedFrom {cell value : Option (MetricValue ℚ)}
    (collects : meter.policy.Collects parts cell) (settles : meter.policy.Settles others value) :
    meter.policy.Collects (parts + others) (meter.receivedFrom value cell) := by
  cases value with
  | none =>
      have empty : others = 0 := settles
      rw [empty, add_zero]
      exact collects
  | some value =>
      cases cell with
      | none =>
          have empty : parts = 0 := collects
          rw [empty, zero_add]
          exact settles.accumulated_empty meter.metric.name
      | some whole => exact collects.accumulated settles

private theorem settles_joined {cell : Option (MetricValue ℚ)} {value : MetricValue ℚ}
    (known : meter.policy.Settles parts cell)
    (settles : meter.policy.Settles others (some value)) :
    meter.policy.Settles (parts + others) (some (meter.joined value cell)) := by
  cases cell with
  | none =>
      have empty : parts = 0 := known
      rw [empty, zero_add]
      exact settles
  | some whole => exact known.merged settles

private theorem add_coe_cons (head : Contribution) (rest : List Contribution) :
    parts + ((head :: rest : List Contribution) : Multiset Contribution) =
      parts + {head} + (rest : Multiset Contribution) := by
  rw [← Multiset.cons_coe, ← Multiset.singleton_add, add_assoc]

private theorem collects_receivedAll (package : String) {classes : List (ClassValue ℚ)}
    (covers : ∀ measured, measured ∈ classes → 1 ≤ measured.count)
    {cell : Option (MetricValue ℚ)} (collects : meter.policy.Collects parts cell) :
    meter.policy.Collects
      (parts + ((classes.map (ClassValue.contribution package) : List Contribution) :
        Multiset Contribution))
      (meter.receivedAll [] classes cell) := by
  induction classes generalizing parts cell with
  | nil =>
      rw [List.map_nil, Multiset.coe_nil, add_zero]
      exact collects
  | cons head rest ih =>
      have first := settles_incoming meter package (covers head (List.Mem.head rest))
      rw [List.map_cons, add_coe_cons]
      exact ih (fun measured present => covers measured (List.Mem.tail head present))
        (collects_receivedFrom meter collects first)

private theorem settles_receivedAll (package className : String)
    {classes : List (ClassValue ℚ)}
    (covers : ∀ measured, measured ∈ classes → 1 ≤ measured.count)
    {cell : Option (MetricValue ℚ)} (settles : meter.policy.Settles parts cell) :
    meter.policy.Settles
      (parts + (((classes.filter (fun measured => measured.name == className)).map
        (ClassValue.contribution package) : List Contribution) : Multiset Contribution))
      (meter.receivedAll [className] classes cell) := by
  induction classes generalizing parts cell with
  | nil =>
      rw [List.filter_nil, List.map_nil, Multiset.coe_nil, add_zero]
      exact settles
  | cons head rest ih =>
      have later := fun measured present => covers measured (List.Mem.tail head present)
      have step : meter.receivedAll [className] (head :: rest) cell =
          meter.receivedAll [className] rest (meter.received head [className] cell) := rfl
      rw [step, Meter.received]
      by_cases here : head.name = className
      · have first := settles_incoming meter package (covers head (List.Mem.head rest))
        rw [if_pos here, List.filter_cons, if_pos (beq_iff_eq.mpr here), List.map_cons,
          add_coe_cons]
        exact ih later (settles_joined meter settles first)
      · rw [if_neg here, List.filter_cons, if_neg (fun same => here (beq_iff_eq.mp same))]
        exact ih later settles

end

/-! ### Contributions to a workspace -/

namespace MetricKind

variable [FrontEnd] (kind : MetricKind)

def contributionsOf (package : String × List SourceUnit) : List Contribution :=
  ((parsedUnits package.2).flatMap kind.classValues).map (ClassValue.contribution package.1)

def contributions (packages : List (String × List SourceUnit)) : List Contribution :=
  packages.flatMap kind.contributionsOf

/-- Those contributions that lie under the node at a path. -/
def contributionsUnder (packages : List (String × List SourceUnit)) (path : List String) :
    List Contribution :=
  (kind.contributions packages).filter (fun part => decide (path <+: part.path))

private theorem contributionsUnder_nil (packages : List (String × List SourceUnit)) :
    kind.contributionsUnder packages [] = kind.contributions packages := by
  rw [contributionsUnder, List.filter_eq_self]
  intro part _
  exact decide_eq_true (List.nil_prefix)

/-- Only the package with the name contributes to what lies under it. -/
private theorem contributionsUnder_cons {packages : List (String × List SourceUnit)}
    (distinct : (packages.map Prod.fst).Nodup) (name : String) (rest : List String) :
    kind.contributionsUnder packages (name :: rest) =
      match packages.find? (fun package => package.1 == name) with
      | none => []
      | some package =>
          (((parsedUnits package.2).flatMap kind.classValues).filter
            (fun measured => decide (rest <+: [measured.name]))).map
            (ClassValue.contribution package.1) := by
  unfold contributionsUnder contributions
  induction packages with
  | nil => rfl
  | cons head others ih =>
      rw [List.map_cons, List.nodup_cons] at distinct
      rw [List.flatMap_cons, List.filter_append, ih distinct.2, contributionsOf, List.filter_map,
        List.find?_cons]
      by_cases same : head.1 = name
      · have absent : others.find? (fun package => package.1 == name) = none := by
          rw [List.find?_eq_none]
          intro package present isNamed
          exact distinct.1
            (List.mem_map.mpr ⟨package, present, (eq_of_beq isNamed).trans same.symm⟩)
        rw [absent, beq_iff_eq.mpr same, List.append_nil]
        congr 2
        funext measured
        change decide (name :: rest <+: [head.1, measured.name]) = _
        rw [same]
        congr 1
        exact propext (List.cons_prefix_cons.trans (and_iff_right rfl))
      · have elsewhere : ((parsedUnits head.2).flatMap kind.classValues).filter
            ((fun part => decide (name :: rest <+: part.path)) ∘
              ClassValue.contribution head.1) = [] := by
          rw [List.filter_eq_nil_iff]
          intro measured _ inside
          have isPrefix : name :: rest <+: [head.1, measured.name] := of_decide_eq_true inside
          exact same (List.cons_prefix_cons.mp isPrefix).1.symm
        rw [elsewhere, beq_false_of_ne same]
        rfl

end MetricKind

/-! ### Values of a workspace -/

section

variable [FrontEnd] {meters : List (Meter ℚ)} (distinctMeters : (metricNames meters).Nodup)
  {meter : Meter ℚ} (present : meter ∈ meters)

include distinctMeters present

private theorem settles_package (package : String × List SourceUnit) :
    meter.policy.Settles (meter.kind.contributionsOf package : List Contribution)
      ((packageTree meters package.1 (parsedUnits package.2)).lookup meter.metric.name []) := by
  have empty : meter.policy.Collects 0 none := rfl
  have collects := collects_receivedAll meter package.1
    (meter.kind.covers_of_mem_flatMap (parsedUnits package.2)) empty
  rw [zero_add] at collects
  rw [lookup_packageTree_nil distinctMeters _ _ present]
  exact collects.finalized

private theorem settles_class (package : String × List SourceUnit) (className : String) :
    meter.policy.Settles
      ((((parsedUnits package.2).flatMap meter.kind.classValues).filter
        (fun measured => measured.name == className)).map
          (ClassValue.contribution package.1) : List Contribution)
      ((packageTree meters package.1 (parsedUnits package.2)).lookup meter.metric.name
        [className]) := by
  have empty : meter.policy.Settles 0 none := rfl
  have settles := settles_receivedAll meter package.1 className
    (meter.kind.covers_of_mem_flatMap (parsedUnits package.2)) empty
  rw [zero_add] at settles
  rw [lookup_packageTree_cons distinctMeters _ _ present]
  exact settles

private theorem collects_project (packages : List (String × List SourceUnit))
    {tree : Measurement ℚ} {parts : Multiset Contribution}
    (collects : meter.policy.Collects parts (tree.lookup meter.metric.name [])) :
    meter.policy.Collects
      (parts + (meter.kind.contributions packages : List Contribution))
      (((packages.map (fun package =>
        packageTree meters package.1 (parsedUnits package.2))).foldl
          (foldedPackage meters) tree).lookup meter.metric.name []) := by
  induction packages generalizing tree parts with
  | nil =>
      rw [MetricKind.contributions, List.flatMap_nil, Multiset.coe_nil, add_zero]
      exact collects
  | cons head rest ih =>
      have first := collects_receivedFrom meter collects
        (settles_package distinctMeters present head)
      rw [← lookup_foldedPackage_nil distinctMeters present] at first
      have later := ih first
      rw [add_assoc, Multiset.coe_add] at later
      exact later

private theorem settles_workspace (project : String)
    {packages : List (String × List SourceUnit)} (distinct : (packages.map Prod.fst).Nodup)
    {path : List String} (short : path.length ≤ 2) :
    meter.policy.Settles (meter.kind.contributionsUnder packages path : List Contribution)
      ((workspaceTree meters project packages).lookup meter.metric.name path) := by
  cases path with
  | nil =>
      have empty : meter.policy.Collects 0
          ((new .project project : Measurement ℚ).lookup meter.metric.name []) := rfl
      have collects := collects_project distinctMeters present packages empty
      rw [zero_add] at collects
      rw [workspaceTree, projectTree, lookup_finalizedTree_nil distinctMeters present,
        MetricKind.contributionsUnder_nil]
      exact collects.finalized
  | cons name rest =>
      rw [lookup_cons, part?_workspaceTree,
        MetricKind.contributionsUnder_cons _ distinct]
      cases packages.find? (fun package => package.1 == name) with
      | none => exact rfl
      | some package =>
          dsimp only [Option.map_some, Option.bind_some]
          cases rest with
          | nil =>
              have all : ((parsedUnits package.2).flatMap meter.kind.classValues).filter
                  (fun measured : ClassValue ℚ => decide ([] <+: [measured.name])) =
                  (parsedUnits package.2).flatMap meter.kind.classValues := by
                rw [List.filter_eq_self]
                intro measured _
                exact decide_eq_true List.nil_prefix
              rw [all]
              exact settles_package distinctMeters present package
          | cons className deeper =>
              have ends : deeper = [] := by
                rw [List.length_cons, List.length_cons] at short
                exact List.length_eq_zero_iff.mp (by omega)
              have sameClass : (fun measured : ClassValue ℚ =>
                  decide (className :: deeper <+: [measured.name])) =
                  fun measured => measured.name == className := by
                funext measured
                have isPrefix : className :: deeper <+: [measured.name] ↔
                    measured.name = className := by
                  rw [ends, List.cons_prefix_cons, and_iff_left List.nil_prefix]
                  exact eq_comm
                exact decide_eq_decide.mpr isPrefix
              rw [sameClass, ends]
              exact settles_class distinctMeters present package className

end

/-- The value of a metric for what the contributions come from, none without any. Complexity
and response are means, weighted by element counts; cohesion is the highest value. -/
def MetricKind.RollsUp (kind : MetricKind) (parts : Multiset Contribution) :
    Option (MetricValue ℚ) → Prop
  | none => parts = 0
  | some value => parts ≠ 0 ∧ value.count = Contribution.totalCount parts ∧
      match kind with
      | .complexity | .response =>
          value.value = Contribution.weightedSum parts / Contribution.totalCount parts
      | .cohesion => Contribution.Highest parts value.value

private theorem rollsUp_of_settles {kind : MetricKind} {parts : Multiset Contribution}
    {cell : Option (MetricValue ℚ)} (settles : kind.policy.Settles parts cell) :
    kind.RollsUp parts cell := by
  cases cell with
  | none => exact settles
  | some value =>
      obtain ⟨covers, counts, isValue⟩ := settles
      refine ⟨?_, counts, ?_⟩
      · rintro rfl
        have zero : Contribution.totalCount 0 = 0 := rfl
        omega
      · cases kind with
        | complexity => exact isValue
        | response => exact isValue
        | cohesion => exact isValue

private theorem rollsUp_workspace [FrontEnd] {config : Config ℚ} {metrics : List (Metric ℚ)}
    (accepted : config.resolve = .ok metrics) {kind : MetricKind}
    (enabled : (config.table kind).enabled = true) (project : String)
    {packages : List (String × List SourceUnit)} (distinct : (packages.map Prod.fst).Nodup)
    (path : List String) (short : path.length ≤ 2) :
    kind.RollsUp (kind.contributionsUnder packages path : List Contribution)
      ((workspaceTree (metrics.map Meter.ofMetric) project packages).lookup
        kind.metricName path) := by
  have named : kind.metricName ∈ metrics.map Metric.name := by
    rw [config.names_of_resolve accepted]
    apply List.mem_map_of_mem
    refine List.mem_filter.mpr ⟨?_, enabled⟩
    cases kind <;> decide
  obtain ⟨metric, isMetric, isNamed⟩ := List.mem_map.mp named
  have sameKind : (Meter.ofMetric metric).kind = kind := Meter.kind_ofMetric isNamed
  have sameName : (Meter.ofMetric metric).metric.name = kind.metricName := isNamed
  have settles := settles_workspace (metricNames_nodup (config.known_of_resolve accepted))
    (List.mem_map_of_mem isMetric) project distinct short
  rw [sameName, Meter.policy, sameKind] at settles
  exact rollsUp_of_settles settles

/-- Under a configuration that resolves, and with different names of packages, the tree of a
workspace has at each node that is no method what the contributions under the node come to, for
each metric that is enabled. The contributions form a multiset: neither their order nor their
grouping into units matters. Every contribution lies under the node of its class. -/
theorem analyzeWorkspace_rolls_up [FrontEnd] {config : Config ℚ} {metrics : List (Metric ℚ)}
    (accepted : config.resolve = .ok metrics) (schedule : Schedule) (project : String)
    {packages : List (String × List SourceUnit)} (distinct : (packages.map Prod.fst).Nodup) :
    ∃ tree, (analyzeWorkspace schedule metrics project
        (packages.map PackageUnits.ofSources)).result = .ok tree ∧
      ∀ kind, (config.table kind).enabled = true →
        (∀ path node, tree.At path node → node.scope ≠ .method →
          kind.RollsUp (kind.contributionsUnder packages path : List Contribution)
            (node.value? kind.metricName)) ∧
        ∀ part, part ∈ kind.contributions packages → ∃ node, tree.At part.path node := by
  have known := config.known_of_resolve accepted
  have finished := finished_workspaceTree (metrics.map Meter.ofMetric) project packages
  refine ⟨_, result_analyzeWorkspace known schedule project packages, ?_⟩
  intro kind enabled
  constructor
  · intro path node lies isWhole
    rw [← finished.tidy.lookup_of_at lies]
    apply rollsUp_workspace accepted enabled project distinct
    have heights := finished.tidy.height_of_at lies
    have positive : node.scope.height ≠ 0 := by
      cases hasScope : node.scope with
      | method => exact absurd hasScope isWhole
      | _ => exact Nat.succ_ne_zero _
    rw [finished.hasScope] at heights
    change 3 = _ at heights
    omega
  · intro part present
    obtain ⟨package, _, byPackage⟩ := List.mem_flatMap.mp present
    obtain ⟨measured, _, rfl⟩ := List.mem_map.mp byPackage
    have under : measured.contribution package.1 ∈
        kind.contributionsUnder packages [package.1, measured.name] :=
      List.mem_filter.mpr ⟨present, decide_eq_true (List.prefix_refl _)⟩
    have value := rollsUp_workspace accepted enabled project distinct
      [package.1, measured.name] (Nat.le_refl 2)
    cases found : (workspaceTree (metrics.map Meter.ofMetric) project packages).node?
        [package.1, measured.name] with
    | none =>
        rw [lookup, found] at value
        have empty : kind.contributionsUnder packages [package.1, measured.name] = [] :=
          (Multiset.coe_eq_zero _).mp value
        rw [empty] at under
        cases under
    | some node => exact ⟨node, (finished.tidy.at_iff _ node).mpr found⟩

/-- Two packages, one of them with a type that is told about in two units. -/
def splitPackages : List (String × List SourceUnit) :=
  [("shapes",
      [{ name := "src/lib.rs", source := "struct Point;" },
       { name := "src/point.rs", source := "struct Point;" }]),
    ("colors", [{ name := "src/lib.rs", source := "enum Color;" }])]

theorem splitPackages_roll_up :
    (splitPackages.map Prod.fst).Nodup ∧
      ∃ metrics, ({} : Config ℚ).resolve = .ok metrics ∧
        ∃ tree, (analyzeWorkspace .sequential metrics "drawing"
            (splitPackages.map PackageUnits.ofSources)).result = .ok tree ∧
          ∀ path node, tree.At path node → node.scope ≠ .method →
            MetricKind.cohesion.RollsUp
              (MetricKind.cohesion.contributionsUnder splitPackages path : List Contribution)
              (node.value? "lcom4") := by
  have accepted : ({} : Config ℚ).resolve = .ok _ := rfl
  have distinct : (splitPackages.map Prod.fst).Nodup := by decide
  obtain ⟨tree, result, rollsUp⟩ :=
    analyzeWorkspace_rolls_up accepted .sequential "drawing" distinct
  exact ⟨distinct, _, accepted, tree, result, (rollsUp .cohesion rfl).1⟩

end CrateMetrics
