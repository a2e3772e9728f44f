/-
Marks and values. A mean is checked against its limit whenever it changes, so it is marked exactly
where it violates the limit. The highest value takes over the marks of all its parts. It is itself
the value of one of them, so it is marked where it violates the limit; and what is above an upper
limit stays above it.
-/

import CrateMetrics.Proofs.RollUp.Exact
import CrateMetrics.Proofs.RollUp.Nodes
import CrateMetrics.Proofs.RollUp.Workspace

namespace CrateMetrics

open Measurement Analysis

/-! ### Marks under the rules of aggregation -/

/-- What the mark of a highest value tells. Below a lower limit a part may be marked that the
highest value does not show. -/
structure Metric.MarksHighest (metric : Metric ℚ) (value : MetricValue ℚ) : Prop where
  marked : metric.violatedBy value.value = true → value.violated = true
  violates : ∀ max, metric.limit = .atMost max → value.violated = true →
    metric.violatedBy value.value = true

theorem Metric.MarksHighest.of_max {metric : Metric ℚ} {left right value : MetricValue ℚ}
    (marksLeft : metric.MarksHighest left) (marksRight : metric.MarksHighest right)
    (highest : value.value = max left.value right.value)
    (anyMark : value.violated = (left.violated || right.violated)) :
    metric.MarksHighest value := by
  constructor
  · intro breaks
    rw [anyMark, Bool.or_eq_true_iff]
    rw [highest] at breaks
    -- The maximum is one of the two, and that one was checked.
    rcases max_choice left.value right.value with isLeft | isRight
    · rw [isLeft] at breaks
      exact Or.inl (marksLeft.marked breaks)
    · rw [isRight] at breaks
      exact Or.inr (marksRight.marked breaks)
  · intro bound upper marked
    have above (number : ℚ) : metric.violatedBy number = true ↔ bound < number := by
      rw [violatedBy, upper]
      exact decide_eq_true_iff
    rw [anyMark, Bool.or_eq_true_iff] at marked
    rw [above, highest, lt_max_iff]
    rcases marked with left | right
    · exact Or.inl ((above _).mp (marksLeft.violates bound upper left))
    · exact Or.inr ((above _).mp (marksRight.violates bound upper right))

namespace Policy

/-- The mark of a final value agrees with the value. -/
def Marks (policy : Policy) (metric : Metric ℚ) (value : MetricValue ℚ) : Prop :=
  match policy with
  | .average => value.violated = metric.violatedBy value.value
  | .worstOf => metric.MarksHighest value

/-- The mark of a pending value is ready to be finalized. The mean is yet to be checked. -/
structure MarksPending (policy : Policy) (metric : Metric ℚ) (whole : MetricValue ℚ) : Prop where
  covers : 1 ≤ whole.count
  highest : policy = .worstOf → metric.MarksHighest whole

variable {policy : Policy} {metric : Metric ℚ}

theorem Marks.of_checked {value : MetricValue ℚ}
    (checked : value.violated = metric.violatedBy value.value) : policy.Marks metric value := by
  cases policy with
  | average => exact checked
  | worstOf => exact ⟨checked.trans, fun _ _ => checked.symm.trans⟩

theorem Marks.merged {known incoming : MetricValue ℚ} (marksKnown : policy.Marks metric known)
    (marksIncoming : policy.Marks metric incoming) :
    policy.Marks metric (policy.merged metric known incoming) := by
  cases policy with
  | average => rfl
  | worstOf =>
      exact Metric.MarksHighest.of_max marksKnown marksIncoming (Scalar.larger_eq_max _ _) rfl

theorem Marks.accumulated_empty {part : MetricValue ℚ} (marks : policy.Marks metric part)
    (covers : 1 ≤ part.count) (name : String) :
    policy.MarksPending metric (policy.accumulated (MetricValue.empty name) part) := by
  constructor
  · rw [count_accumulated]
    exact Nat.le_add_left_of_le covers
  · rintro rfl
    have highest : metric.MarksHighest part := marks
    exact ⟨highest.marked, highest.violates⟩

theorem MarksPending.accumulated {whole part : MetricValue ℚ}
    (pending : policy.MarksPending metric whole) (marks : policy.Marks metric part) :
    policy.MarksPending metric (policy.accumulated whole part) := by
  constructor
  · rw [count_accumulated]
    exact Nat.le_add_right_of_le pending.covers
  · rintro rfl
    exact (pending.highest rfl).of_max marks (value_accumulated_worstOf pending.covers part) rfl

theorem MarksPending.finalized {whole : MetricValue ℚ}
    (pending : policy.MarksPending metric whole) :
    policy.Marks metric (policy.finalized metric whole) := by
  cases policy with
  | average => rfl
  | worstOf =>
      have highest := pending.highest rfl
      exact ⟨highest.marked, highest.violates⟩

end Policy

/-! ### Cells of a package -/

namespace Meter

variable (meter : Meter ℚ)

theorem marks_finalValue (value : ℚ) (count : ℕ) :
    meter.policy.Marks meter.metric (meter.finalValue value count) :=
  Policy.Marks.of_checked rfl

theorem marksPending_collected {part : MetricValue ℚ}
    (marks : meter.policy.Marks meter.metric part) (covers : 1 ≤ part.count)
    {cell : Option (MetricValue ℚ)}
    (pending : ∀ whole, cell = some whole → meter.policy.MarksPending meter.metric whole) :
    meter.policy.MarksPending meter.metric (meter.collected part cell) := by
  cases cell with
  | none => exact marks.accumulated_empty covers _
  | some whole => exact (pending whole rfl).accumulated marks

/-- Values of classes are merged, those of methods are as they were measured. -/
private theorem marks_classReceived (measured : ClassValue ℚ) (path : List String)
    {cell : Option (MetricValue ℚ)}
    (marks : ∀ known, cell = some known → meter.policy.Marks meter.metric known)
    {value : MetricValue ℚ} (isValue : meter.classReceived measured path cell = some value) :
    meter.policy.Marks meter.metric value := by
  match path with
  | [] =>
      cases isValue
      cases cell with
      | none => exact meter.marks_finalValue _ _
      | some known => exact (marks known rfl).merged (meter.marks_finalValue _ _)
  | [method] =>
      rw [classReceived, lookup_classMeasurement_method] at isValue
      rcases Option.or_eq_some_iff.mp isValue with byUnit | ⟨_, before⟩
      · obtain ⟨number, _, rfl⟩ := Option.map_eq_some_iff.mp byUnit
        exact meter.marks_finalValue number 1
      · exact marks value before
  | method :: part :: rest =>
      rw [classReceived, lookup_classMeasurement_below, Option.none_or] at isValue
      exact marks value isValue

theorem marks_receivedAll (part : String) (rest : List String) (classes : List (ClassValue ℚ))
    (value : MetricValue ℚ) (found : meter.receivedAll (part :: rest) classes none = some value) :
    meter.policy.Marks meter.metric value := by
  let marked (cell : Option (MetricValue ℚ)) : Prop :=
    ∀ value, cell = some value → meter.policy.Marks meter.metric value
  have keeps : marked (meter.receivedAll (part :: rest) classes none) := by
    refine List.foldlRecOn (motive := marked) classes _ (fun _ impossible => nomatch impossible) ?_
    intro cell known measured _ value isValue
    rw [received] at isValue
    by_cases here : measured.name = part
    · rw [if_pos here] at isValue
      exact meter.marks_classReceived measured rest known isValue
    · rw [if_neg here] at isValue
      exact known value isValue
  exact keeps value found

theorem marksPending_receivedAll {classes : List (ClassValue ℚ)}
    (covers : ∀ measured, measured ∈ classes → 1 ≤ measured.count) (whole : MetricValue ℚ)
    (found : meter.receivedAll [] classes none = some whole) :
    meter.policy.MarksPending meter.metric whole := by
  let pending (cell : Option (MetricValue ℚ)) : Prop :=
    ∀ whole, cell = some whole → meter.policy.MarksPending meter.metric whole
  have keeps : pending (meter.receivedAll [] classes none) := by
    refine List.foldlRecOn (motive := pending) classes _ (fun _ impossible => nomatch impossible) ?_
    intro cell known measured present whole isWhole
    cases isWhole
    exact meter.marksPending_collected (meter.marks_finalValue _ _) (covers measured present) known
  exact keeps whole found

end Meter

/-! ### Packages and projects -/

namespace Analysis

section

variable {meters : List (Meter ℚ)} (distinct : (metricNames meters).Nodup) {meter : Meter ℚ}
  (present : meter ∈ meters)

include distinct present

theorem marks_packageTree (name : String) (units : List (List Event)) (path : List String)
    (value : MetricValue ℚ)
    (found : (packageTree meters name units).lookup meter.metric.name path = some value) :
    meter.policy.Marks meter.metric value := by
  cases path with
  | nil =>
      rw [lookup_packageTree_nil distinct _ _ present] at found
      obtain ⟨whole, isWhole, rfl⟩ := Option.map_eq_some_iff.mp found
      exact (meter.marksPending_receivedAll (meter.kind.covers_of_mem_flatMap units) whole
        isWhole).finalized
  | cons part rest =>
      rw [lookup_packageTree_cons distinct _ _ present] at found
      exact meter.marks_receivedAll part rest _ value found

/-- The project takes in finished packages, also those that it does not keep. -/
private theorem marksPending_foldedPackages {packages : List (Measurement ℚ)}
    (measured : ∀ package, package ∈ packages →
      ∃ own units, package = packageTree meters own units)
    (name : String) (whole : MetricValue ℚ)
    (found : (packages.foldl (foldedPackage meters) (.new .project name)).lookup
      meter.metric.name [] = some whole) :
    meter.policy.MarksPending meter.metric whole := by
  let pending (project : Measurement ℚ) : Prop :=
    ∀ whole, project.lookup meter.metric.name [] = some whole →
      meter.policy.MarksPending meter.metric whole
  have keeps : pending (packages.foldl (foldedPackage meters) (.new .project name)) := by
    refine List.foldlRecOn (motive := pending) packages _ (fun _ impossible => nomatch impossible) ?_
    intro project known package isPackage whole isWhole
    rw [lookup_foldedPackage_nil distinct present] at isWhole
    cases shown : package.lookup meter.metric.name [] with
    | none =>
        rw [shown] at isWhole
        exact known whole isWhole
    | some value =>
        rw [shown] at isWhole
        cases isWhole
        obtain ⟨own, units, rfl⟩ := measured package isPackage
        have isFinal := (finished_packageTree own units meters).final _ [] value shown
        exact meter.marksPending_collected
          (marks_packageTree distinct present own units [] value shown) isFinal.covers known
  exact keeps whole found

theorem marks_workspaceTree [FrontEnd] (project : String)
    (packages : List (String × List SourceUnit)) (path : List String) (value : MetricValue ℚ)
    (found : (workspaceTree meters project packages).lookup meter.metric.name path = some value) :
    meter.policy.Marks meter.metric value := by
  cases path with
  | nil =>
      rw [workspaceTree, projectTree, lookup_finalizedTree_nil distinct present] at found
      obtain ⟨whole, isWhole, rfl⟩ := Option.map_eq_some_iff.mp found
      refine (marksPending_foldedPackages distinct present ?_ project whole isWhole).finalized
      intro package isPackage
      obtain ⟨source, _, rfl⟩ := List.mem_map.mp isPackage
      exact ⟨_, _, rfl⟩
  | cons part rest =>
      rw [lookup_cons, part?_workspaceTree] at found
      obtain ⟨package, isPackage, shows⟩ := Option.bind_eq_some_iff.mp found
      obtain ⟨source, _, rfl⟩ := Option.map_eq_some_iff.mp isPackage
      exact marks_packageTree distinct present _ _ rest value shows

end

/-- Under a configuration that resolves, every value in the tree of a workspace is marked in
agreement with the limit of its metric: a mean exactly where it violates the limit, the highest
value at least there, and exactly there under an upper limit. -/
theorem analyzeWorkspace_marks_agree [FrontEnd] {config : Config ℚ} {metrics : List (Metric ℚ)}
    (accepted : config.resolve = .ok metrics) (schedule : Schedule) (project : String)
    (packages : List (String × List SourceUnit)) :
    ∃ tree, (analyzeWorkspace schedule metrics project
        (packages.map PackageUnits.ofSources)).result = .ok tree ∧
      ∀ path node, tree.At path node → ∀ value ∈ node.values,
        ∃ kind : MetricKind, kind.metricName = value.name ∧
          ∃ metric ∈ metrics, metric.name = value.name ∧
            (kind = .complexity ∨ kind = .response →
              value.violated = metric.violatedBy value.value) ∧
            (kind = .cohesion → (metric.violatedBy value.value = true → value.violated = true) ∧
              ∀ max, metric.limit = .atMost max →
                value.violated = metric.violatedBy value.value) := by
  have known := config.known_of_resolve accepted
  have distinct := metricNames_nodup known
  have tidy := (finished_workspaceTree (metrics.map Meter.ofMetric) project packages).tidy
  refine ⟨_, result_analyzeWorkspace known schedule project packages, ?_⟩
  intro path node lies value isValue
  have found := tidy.lookup_of_at lies value.name
  rw [(tidy.of_at lies).value?_of_mem isValue] at found
  have named : value.name ∈ metricNames (metrics.map Meter.ofMetric) := by
    by_contra absent
    rw [lookup_workspaceTree_of_not_mem absent] at found
    cases found
  obtain ⟨meter, isMeter, isName⟩ := List.mem_map.mp named
  obtain ⟨metric, isMetric, rfl⟩ := List.mem_map.mp isMeter
  obtain ⟨kind, ofKind⟩ := known.known metric isMetric
  have sameKind : (Meter.ofMetric metric).kind = kind := Meter.kind_ofMetric ofKind.symm
  rw [← isName] at found
  have marks := marks_workspaceTree distinct isMeter project packages path value found
  rw [Meter.policy, sameKind] at marks
  refine ⟨kind, ofKind.trans isName, metric, isMetric, isName, ?_, ?_⟩
  · rintro (rfl | rfl)
    · exact marks
    · exact marks
  · rintro rfl
    have highest : metric.MarksHighest value := marks
    refine ⟨highest.marked, fun max upper => ?_⟩
    exact Bool.eq_iff_iff.mpr ⟨highest.violates max upper, highest.marked⟩

/-- Two files about one type: its methods share nothing, but the declaration has none. -/
def sparsePackages : List (String × List SourceUnit) :=
  [("shapes",
      [{ name := "src/lib.rs", source := "struct Point;" },
       { name := "src/point.rs", source := "impl Point { fn x() {} fn y() { if true {} } }" }])]

/-- Types are to have two groups of methods, and methods no more than one decision each. -/
def lowerCohesion : Config ℚ :=
  { complexity := { max := some 2 }, cohesion := { verification := .min, min := some 2 } }

theorem sparsePackages_marks_agree :
    ∃ metrics, lowerCohesion.resolve = .ok metrics ∧
      ∃ tree, (analyzeWorkspace .sequential metrics "drawing"
          (sparsePackages.map PackageUnits.ofSources)).result = .ok tree ∧
        ∀ path node, tree.At path node → ∀ value ∈ node.values,
          ∃ metric ∈ metrics, metric.name = value.name ∧
            (metric.violatedBy value.value = true → value.violated = true) := by
  have accepted : lowerCohesion.resolve = .ok _ := rfl
  obtain ⟨tree, result, agree⟩ :=
    analyzeWorkspace_marks_agree accepted .sequential "drawing" sparsePackages
  refine ⟨_, accepted, tree, result, fun path node lies value isValue => ?_⟩
  obtain ⟨kind, _, metric, isMetric, named, means, highest⟩ := agree path node lies value isValue
  refine ⟨metric, isMetric, named, fun breaks => ?_⟩
  cases kind with
  | complexity => exact (means (Or.inl rfl)).trans breaks
  | response => exact (means (Or.inr rfl)).trans breaks
  | cohesion => exact (highest rfl).1 breaks

end Analysis

end CrateMetrics
