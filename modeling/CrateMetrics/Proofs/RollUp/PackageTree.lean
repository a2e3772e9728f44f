/-
The tree of a package. Measured units are folded in one after the other, then the own values
of the package are finalized; no step of this fails. The value at a path is what the cell at
this path receives from all classes of all units, for each metric on its own.
-/

import CrateMetrics.Analysis
import CrateMetrics.Proofs.RollUp.Configured
import CrateMetrics.Proofs.RollUp.Folding

namespace CrateMetrics

open Edit Measurement

variable {α : Type}

namespace Analysis

/-! ### Steps for each meter -/

def metricNames (meters : List (Meter α)) : List String :=
  meters.map (fun meter => meter.metric.name)

theorem metricNames_nodup {metrics : List (Metric α)} (known : Metric.Known metrics) :
    (metricNames (metrics.map Meter.ofMetric)).Nodup := by
  rw [metricNames, List.map_map]
  exact known.distinct

theorem lookup_foldl_of_same {β : Type} {step : Measurement α → β → Measurement α}
    {items : List β} {metric : String} {path : List String}
    (same : ∀ item, item ∈ items → ∀ tree,
      (step tree item).lookup metric path = tree.lookup metric path)
    (tree : Measurement α) :
    (items.foldl step tree).lookup metric path = tree.lookup metric path := by
  induction items generalizing tree with
  | nil => rfl
  | cons head rest ih =>
      rw [List.foldl_cons, ih (fun item present => same item (List.Mem.tail head present)),
        same head (List.Mem.head rest)]

/-- One step for each meter: a cell is changed once if there is one meter of its metric. -/
theorem lookup_foldl_once {step : Measurement α → Meter α → Measurement α}
    {meters : List (Meter α)} {meter : Meter α} (present : meter ∈ meters)
    (once : (metricNames meters).count meter.metric.name = 1) {path : List String}
    (change : Option (MetricValue α) → Option (MetricValue α))
    (own : ∀ tree, (step tree meter).lookup meter.metric.name path =
      change (tree.lookup meter.metric.name path))
    (others : ∀ other, other.metric.name ≠ meter.metric.name → ∀ tree,
      (step tree other).lookup meter.metric.name path = tree.lookup meter.metric.name path)
    (tree : Measurement α) :
    (meters.foldl step tree).lookup meter.metric.name path =
      change (tree.lookup meter.metric.name path) := by
  induction meters generalizing tree with
  | nil => cases present
  | cons head rest ih =>
      rw [metricNames, List.map_cons, ← metricNames] at once
      rw [List.foldl_cons]
      cases present with
      | head =>
          rw [List.count_cons_self] at once
          have absent : meter.metric.name ∉ metricNames rest :=
            List.count_eq_zero.mp (Nat.succ.inj once)
          have untouched (other : Meter α) (later : other ∈ rest) :
              other.metric.name ≠ meter.metric.name := by
            intro same
            exact absent (List.mem_map.mpr ⟨other, later, same⟩)
          rw [lookup_foldl_of_same (fun other later => others other (untouched other later)), own]
      | tail _ later =>
          have among : 0 < (metricNames rest).count meter.metric.name :=
            List.count_pos_iff.mpr (List.mem_map_of_mem later)
          have different : head.metric.name ≠ meter.metric.name := by
            intro same
            rw [same, List.count_cons_self] at once
            omega
          rw [List.count_cons_of_ne different] at once
          rw [ih later once, others head different]

theorem count_metricNames {meters : List (Meter α)} (distinct : (metricNames meters).Nodup)
    {meter : Meter α} (present : meter ∈ meters) :
    (metricNames meters).count meter.metric.name = 1 :=
  List.count_eq_one_of_mem distinct (List.mem_map_of_mem present)

/-- One step for each meter: a cell is changed once, by the meter of its metric. -/
theorem lookup_foldl_meters {step : Measurement α → Meter α → Measurement α}
    {meters : List (Meter α)} (distinct : (metricNames meters).Nodup) {meter : Meter α}
    (present : meter ∈ meters) {path : List String}
    (change : Option (MetricValue α) → Option (MetricValue α))
    (own : ∀ tree, (step tree meter).lookup meter.metric.name path =
      change (tree.lookup meter.metric.name path))
    (others : ∀ other, other.metric.name ≠ meter.metric.name → ∀ tree,
      (step tree other).lookup meter.metric.name path = tree.lookup meter.metric.name path)
    (tree : Measurement α) :
    (meters.foldl step tree).lookup meter.metric.name path =
      change (tree.lookup meter.metric.name path) :=
  lookup_foldl_once present (count_metricNames distinct present) change own others tree

end Analysis

variable [Scalar α]

/-! ### Units -/

namespace Meter

def foldedClasses (meter : Meter α) (classes : List (ClassValue α)) (package : Measurement α) :
    Measurement α :=
  classes.foldl (fun package measured => meter.folded measured package) package

/-- What a cell receives from classes, one after the other. -/
def receivedAll (meter : Meter α) (path : List String) (classes : List (ClassValue α))
    (cell : Option (MetricValue α)) : Option (MetricValue α) :=
  classes.foldl (fun cell measured => meter.received measured path cell) cell

theorem lookup_foldedClasses (meter : Meter α) (classes : List (ClassValue α))
    (package : Measurement α) (metric : String) (path : List String) :
    (meter.foldedClasses classes package).lookup metric path =
      if meter.metric.name = metric then
        meter.receivedAll path classes (package.lookup metric path)
      else package.lookup metric path := by
  induction classes generalizing package with
  | nil => exact (ite_self _).symm
  | cons head rest ih =>
      rw [foldedClasses, List.foldl_cons, ← foldedClasses, ih, lookup_folded]
      by_cases own : meter.metric.name = metric
      · rw [if_pos own, if_pos own, if_pos own]
        rfl
      · rw [if_neg own, if_neg own, if_neg own]

theorem takes_foldClasses (meter : Meter α) {classes : List (ClassValue α)}
    (covers : ∀ measured, measured ∈ classes → 1 ≤ measured.count) {name : String}
    {package : Measurement α} (growing : Growing .package name package) :
    Takes ((classes.map meter.classMeasurement).forM meter.fold) package ()
        (meter.foldedClasses classes package) ∧
      Growing .package name (meter.foldedClasses classes package) := by
  rw [List.forM_eq_forM, List.forM_map]
  exact takes_forM (Growing .package name) (fun package measured => meter.folded measured package) _
    classes
    (fun measured present package growing =>
      ⟨meter.takes_fold (covers measured present) growing,
        meter.growing_folded (covers measured present) growing⟩) package growing

end Meter

namespace Analysis

def foldedUnit (meters : List (Meter α)) (package : Measurement α) (events : List Event) :
    Measurement α :=
  meters.foldl
    (fun package meter => meter.foldedClasses (meter.kind.classValues events) package) package

def foldedUnits (meters : List (Meter α)) (package : Measurement α) (units : List (List Event)) :
    Measurement α :=
  units.foldl (foldedUnit meters) package

theorem lookup_foldedUnit_of_not_mem {meters : List (Meter α)} {metric : String}
    (absent : metric ∉ metricNames meters) (package : Measurement α) (events : List Event)
    (path : List String) :
    (foldedUnit meters package events).lookup metric path = package.lookup metric path := by
  apply lookup_foldl_of_same
  intro meter present tree
  have different : meter.metric.name ≠ metric := by
    intro same
    exact absent (List.mem_map.mpr ⟨meter, present, same⟩)
  rw [Meter.lookup_foldedClasses, if_neg different]

theorem lookup_foldedUnit {meters : List (Meter α)} (distinct : (metricNames meters).Nodup)
    {meter : Meter α} (present : meter ∈ meters) (package : Measurement α)
    (events : List Event) (path : List String) :
    (foldedUnit meters package events).lookup meter.metric.name path =
      meter.receivedAll path (meter.kind.classValues events)
        (package.lookup meter.metric.name path) := by
  apply lookup_foldl_meters distinct present (meter.receivedAll path _)
  · intro tree
    rw [Meter.lookup_foldedClasses, if_pos rfl]
  · intro other different tree
    rw [Meter.lookup_foldedClasses, if_neg different]

theorem lookup_foldedUnits {meters : List (Meter α)} (distinct : (metricNames meters).Nodup)
    {meter : Meter α} (present : meter ∈ meters) (package : Measurement α)
    (units : List (List Event)) (path : List String) :
    (foldedUnits meters package units).lookup meter.metric.name path =
      meter.receivedAll path (units.flatMap meter.kind.classValues)
        (package.lookup meter.metric.name path) := by
  induction units generalizing package with
  | nil => rfl
  | cons events rest ih =>
      rw [foldedUnits, List.foldl_cons, ← foldedUnits, ih, lookup_foldedUnit distinct present,
        List.flatMap_cons, Meter.receivedAll, Meter.receivedAll, Meter.receivedAll,
        List.foldl_append]

theorem lookup_foldedUnits_of_not_mem {meters : List (Meter α)} {metric : String}
    (absent : metric ∉ metricNames meters) (package : Measurement α)
    (units : List (List Event)) (path : List String) :
    (foldedUnits meters package units).lookup metric path = package.lookup metric path :=
  lookup_foldl_of_same
    (fun events _ tree => lookup_foldedUnit_of_not_mem absent tree events path) package

def measuredIn (meters : List (Meter α)) (events : List Event) : Measured α :=
  meters.map (fun meter => (meter, meter.classes events))

theorem takes_foldMeasured (meters : List (Meter α)) (events : List Event)
    {name : String} {package : Measurement α} (growing : Growing .package name package) :
    Takes (foldMeasured (measuredIn meters events)) package ()
        (foldedUnit meters package events) ∧
      Growing .package name (foldedUnit meters package events) := by
  unfold foldMeasured measuredIn
  rw [List.forM_eq_forM, List.forM_map]
  exact takes_forM (Growing .package name)
    (fun package meter => meter.foldedClasses (meter.kind.classValues events) package) _ meters
    (fun meter _ package growing =>
      meter.takes_foldClasses (fun _ => MetricKind.covers_of_mem_classValues) growing)
    package growing

/-! ### Finalizing -/

def finalizedBy (tree : Measurement α) (meter : Meter α) : Measurement α :=
  match tree.value? meter.metric.name with
  | none => tree
  | some whole => tree.putValue (meter.policy.finalized meter.metric whole)

def finalizedTree (meters : List (Meter α)) (tree : Measurement α) : Measurement α :=
  meters.foldl finalizedBy tree

theorem children_finalizedTree (meters : List (Meter α)) (tree : Measurement α) :
    (finalizedTree meters tree).children = tree.children := by
  refine List.foldlRecOn (motive := fun after : Measurement α => after.children = tree.children)
    meters _ rfl ?_
  intro after same meter _
  unfold finalizedBy
  cases after.value? meter.metric.name with
  | none => exact same
  | some whole => exact same

theorem lookup_finalizedBy (tree : Measurement α) (meter : Meter α) (metric : String)
    (path : List String) :
    (finalizedBy tree meter).lookup metric path =
      if path = [] ∧ meter.metric.name = metric then
        (tree.lookup metric []).map (meter.policy.finalized meter.metric)
      else tree.lookup metric path := by
  unfold finalizedBy
  cases found : tree.value? meter.metric.name with
  | none =>
      by_cases here : path = [] ∧ meter.metric.name = metric
      · rw [if_pos here, here.1, ← here.2, lookup_nil, found]
        rfl
      · rw [if_neg here]
  | some whole =>
      have named : (meter.policy.finalized meter.metric whole).name = meter.metric.name := by
        rw [Policy.name_finalized]
        exact name_of_value? found
      rw [lookup_putValue, named]
      by_cases here : path = [] ∧ meter.metric.name = metric
      · rw [if_pos here, if_pos here, ← here.2, lookup_nil, found]
        rfl
      · rw [if_neg here, if_neg here]

theorem lookup_finalizedTree_of_not_mem {meters : List (Meter α)} {metric : String}
    (absent : metric ∉ metricNames meters) (tree : Measurement α) (path : List String) :
    (finalizedTree meters tree).lookup metric path = tree.lookup metric path := by
  apply lookup_foldl_of_same
  intro meter present tree
  rw [lookup_finalizedBy, if_neg]
  rintro ⟨_, same⟩
  exact absent (List.mem_map.mpr ⟨meter, present, same⟩)

theorem lookup_finalizedTree_cons (meters : List (Meter α)) (tree : Measurement α)
    (metric name : String) (rest : List String) :
    (finalizedTree meters tree).lookup metric (name :: rest) =
      tree.lookup metric (name :: rest) := by
  apply lookup_foldl_of_same
  intro meter _ tree
  rw [lookup_finalizedBy, if_neg (fun both => List.cons_ne_nil name rest both.1)]

theorem lookup_finalizedTree_none {metric : String} (meters : List (Meter α))
    {tree : Measurement α} (absent : tree.lookup metric [] = none) :
    (finalizedTree meters tree).lookup metric [] = none := by
  refine List.foldlRecOn (motive := fun after : Measurement α => after.lookup metric [] = none)
    meters _ absent ?_
  intro after none meter _
  rw [lookup_finalizedBy, none]
  exact ite_self _

theorem lookup_finalizedTree_once {meters : List (Meter α)} {meter : Meter α}
    (present : meter ∈ meters) (once : (metricNames meters).count meter.metric.name = 1)
    (tree : Measurement α) :
    (finalizedTree meters tree).lookup meter.metric.name [] =
      (tree.lookup meter.metric.name []).map (meter.policy.finalized meter.metric) := by
  apply lookup_foldl_once present once (Option.map (meter.policy.finalized meter.metric))
  · intro tree
    rw [lookup_finalizedBy, if_pos ⟨rfl, rfl⟩]
  · intro other different tree
    rw [lookup_finalizedBy, if_neg (fun both => different both.2)]

theorem lookup_finalizedTree_nil {meters : List (Meter α)}
    (distinct : (metricNames meters).Nodup) {meter : Meter α} (present : meter ∈ meters)
    (tree : Measurement α) :
    (finalizedTree meters tree).lookup meter.metric.name [] =
      (tree.lookup meter.metric.name []).map (meter.policy.finalized meter.metric) :=
  lookup_finalizedTree_once present (count_metricNames distinct present) tree

theorem takes_finalizeBy (meter : Meter α) {tree : Measurement α}
    (collecting : ∀ whole, tree.value? meter.metric.name = some whole → whole.Collecting) :
    Takes meter.finalize tree () (finalizedBy tree meter) := by
  unfold Meter.finalize finalizedBy
  cases found : tree.value? meter.metric.name with
  | none => exact (takes_editValue_none _ found).bind (takes_pure () tree)
  | some whole =>
      have named : (meter.policy.finalized meter.metric whole).name = meter.metric.name := by
        rw [Policy.name_finalized]
        exact name_of_value? found
      have finalizes := meter.policy.takes_finalize meter.metric (collecting whole found)
      exact (takes_editValue found finalizes named).bind (takes_pure () _)

theorem takes_finalizeAll {meters : List (Meter α)} (distinct : (metricNames meters).Nodup)
    {tree : Measurement α}
    (collecting : ∀ meter, meter ∈ meters →
      ∀ whole, tree.value? meter.metric.name = some whole → whole.Collecting) :
    Takes (finalizeAll meters) tree () (finalizedTree meters tree) := by
  induction meters generalizing tree with
  | nil => exact takes_pure () tree
  | cons head rest ih =>
      rw [metricNames, List.map_cons, List.nodup_cons] at distinct
      have first := takes_finalizeBy head (collecting head (List.Mem.head rest))
      have others : Takes (finalizeAll rest) (finalizedBy tree head) ()
          (finalizedTree rest (finalizedBy tree head)) := by
        apply ih distinct.2
        intro meter later whole found
        have different : ¬ head.metric.name = meter.metric.name := by
          intro same
          exact distinct.1 (List.mem_map.mpr ⟨meter, later, same.symm⟩)
        rw [← lookup_nil, lookup_finalizedBy, if_neg (fun both => different both.2)] at found
        exact collecting meter (List.Mem.tail head later) whole found
      exact first.bind others

theorem takes_of_finalize (meter : Meter α) {tree after : Measurement α}
    (finalizes : Takes meter.finalize tree () after) :
    after = finalizedBy tree meter ∧
      ∀ whole, tree.value? meter.metric.name = some whole → whole.Collecting := by
  have collecting (whole : MetricValue α)
      (found : tree.value? meter.metric.name = some whole) : whole.Collecting := by
    unfold Meter.finalize at finalizes
    obtain ⟨_, _, edits, _⟩ := finalizes.of_bind
    obtain ⟨⟨⟩, changed, ends⟩ := takes_of_takes_editValue found edits
    exact meter.policy.collecting_of_takes_finalize meter.metric ends
  exact ⟨(finalizes.unique (takes_finalizeBy meter collecting)).2, collecting⟩

/-- A value that was finalized had one meter only: a second one would have failed. -/
theorem once_of_finalizeAll {meters : List (Meter α)} {tree after : Measurement α}
    (finalizes : Takes (finalizeAll meters) tree () after) :
    after = finalizedTree meters tree ∧
      ∀ meter, meter ∈ meters → ∀ whole, tree.value? meter.metric.name = some whole →
        whole.Collecting ∧ (metricNames meters).count meter.metric.name = 1 := by
  induction meters generalizing tree with
  | nil => exact ⟨(finalizes.unique (takes_pure () tree)).2, fun _ present => nomatch present⟩
  | cons head rest ih =>
      obtain ⟨⟨⟩, between, first, others⟩ := finalizes.of_bind
      obtain ⟨rfl, collecting⟩ := takes_of_finalize head first
      obtain ⟨isAfter, later⟩ := ih others
      -- the value of the head is final by now, so no later meter can have its name
      have different (meter : Meter α) (present : meter ∈ rest) {whole : MetricValue α}
          (found : tree.value? meter.metric.name = some whole) :
          head.metric.name ≠ meter.metric.name := by
        intro same
        have changed : (finalizedBy tree head).value? meter.metric.name =
            some (head.policy.finalized head.metric whole) := by
          rw [← lookup_nil, lookup_finalizedBy, if_pos ⟨rfl, same⟩, lookup_nil, found]
          rfl
        have pending := (later meter present _ changed).1.pending
        rw [Policy.pending_finalized] at pending
        cases pending
      refine ⟨isAfter, ?_⟩
      intro meter present whole found
      rw [metricNames, List.map_cons, ← metricNames]
      cases present with
      | head =>
          refine ⟨collecting whole found, ?_⟩
          have absent : head.metric.name ∉ metricNames rest := by
            intro among
            obtain ⟨other, isOther, same⟩ := List.mem_map.mp among
            exact different other isOther (same ▸ found) same.symm
          rw [List.count_cons_self, List.count_eq_zero.mpr absent]
      | tail _ among =>
          have apart := different meter among found
          have untouched : (finalizedBy tree head).value? meter.metric.name = some whole := by
            rw [← lookup_nil, lookup_finalizedBy, if_neg (fun both => apart both.2)]
            exact found
          rw [List.count_cons_of_ne apart]
          exact later meter among whole untouched

/-! ### The whole package -/

private theorem finalizedTree_keeps (meters : List (Meter α)) {tree : Measurement α}
    (tidy : tree.Tidy) :
    (finalizedTree meters tree).scope = tree.scope ∧
      (finalizedTree meters tree).name = tree.name ∧ (finalizedTree meters tree).Tidy := by
  induction meters generalizing tree with
  | nil => exact ⟨rfl, rfl, tidy⟩
  | cons head rest ih =>
      have first : (finalizedBy tree head).scope = tree.scope ∧
          (finalizedBy tree head).name = tree.name ∧ (finalizedBy tree head).Tidy := by
        unfold finalizedBy
        cases tree.value? head.metric.name with
        | none => exact ⟨rfl, rfl, tidy⟩
        | some whole => exact ⟨rfl, rfl, tidy.putValue _⟩
      have others := ih first.2.2
      rw [finalizedTree, List.foldl_cons, ← finalizedTree]
      exact ⟨others.1.trans first.1, others.2.1.trans first.2.1, others.2.2⟩

/-- A collected value is final once a meter of its metric was there to finalize it. -/
private theorem final_of_finalizedTree {meters : List (Meter α)} {tree : Measurement α}
    {metric : String} (present : metric ∈ metricNames meters)
    (covers : ∀ whole, tree.lookup metric [] = some whole → 1 ≤ whole.count)
    {value : MetricValue α} (found : (finalizedTree meters tree).lookup metric [] = some value) :
    value.Final := by
  induction meters generalizing tree with
  | nil => cases present
  | cons head rest ih =>
      rw [finalizedTree, List.foldl_cons, ← finalizedTree] at found
      have next (whole : MetricValue α)
          (isWhole : (finalizedBy tree head).lookup metric [] = some whole) :
          1 ≤ whole.count ∧ (head.metric.name = metric → whole.pending = false) := by
        rw [lookup_finalizedBy] at isWhole
        by_cases here : [] = ([] : List String) ∧ head.metric.name = metric
        · rw [if_pos here] at isWhole
          obtain ⟨before, isBefore, rfl⟩ := Option.map_eq_some_iff.mp isWhole
          rw [Policy.count_finalized, Policy.pending_finalized]
          exact ⟨covers before isBefore, fun _ => rfl⟩
        · rw [if_neg here] at isWhole
          exact ⟨covers whole isWhole, fun same => absurd ⟨rfl, same⟩ here⟩
      by_cases later : metric ∈ metricNames rest
      · exact ih later (fun whole isWhole => (next whole isWhole).1) found
      · rw [lookup_finalizedTree_of_not_mem later] at found
        have isHead : head.metric.name = metric := by
          rcases List.mem_cons.mp present with same | among
          · exact same.symm
          · exact absurd among later
        exact ⟨(next value found).2 isHead, (next value found).1⟩

/-- A tree is finished once the own values of all its metrics are finalized. -/
theorem finished_finalizedTree {meters : List (Meter α)} {scope : Scope} {name : String}
    {tree : Measurement α} (growing : Growing scope name tree)
    (measured : ∀ metric, metric ∉ metricNames meters → tree.lookup metric [] = none) :
    Finished scope name (finalizedTree meters tree) := by
  have keeps := finalizedTree_keeps meters growing.tidy
  refine ⟨keeps.1.trans growing.hasScope, keeps.2.1.trans growing.hasName, keeps.2.2, ?_⟩
  intro metric path value found
  cases path with
  | nil =>
      by_cases present : metric ∈ metricNames meters
      · exact final_of_finalizedTree present
          (fun whole isWhole => (growing.collecting metric whole isWhole).covers) found
      · rw [lookup_finalizedTree_of_not_mem present, measured metric present] at found
        cases found
  | cons part rest =>
      rw [lookup_finalizedTree_cons] at found
      exact growing.final metric part rest value found

def packageTree (meters : List (Meter α)) (name : String) (units : List (List Event)) :
    Measurement α :=
  finalizedTree meters (foldedUnits meters (new .package name) units)

section

variable {meters : List (Meter α)} (distinct : (metricNames meters).Nodup) (name : String)
  (units : List (List Event))

/-- What folding in one class keeps, folding in all units keeps. -/
theorem foldedUnits_keeps {meters : List (Meter α)} {name : String}
    (keeps : Measurement α → Prop)
    (each : ∀ meter, meter ∈ meters → ∀ measured : ClassValue α, 1 ≤ measured.count →
      ∀ package, Growing .package name package → keeps package →
        keeps (meter.folded measured package))
    (fresh : keeps (new .package name)) (units : List (List Event)) :
    Growing .package name (foldedUnits meters (new .package name) units) ∧
      keeps (foldedUnits meters (new .package name) units) := by
  let kept (package : Measurement α) : Prop := Growing .package name package ∧ keeps package
  refine List.foldlRecOn (motive := kept) units _ ⟨growing_new .package name, fresh⟩ ?_
  intro package keptUnits events _
  refine List.foldlRecOn (motive := kept) meters _ keptUnits ?_
  intro package keptMeters meter isMeter
  refine List.foldlRecOn (motive := kept) (meter.kind.classValues events) _ keptMeters ?_
  intro package keptClasses measured inside
  have covers := MetricKind.covers_of_mem_classValues inside
  exact ⟨meter.growing_folded covers keptClasses.1,
    each meter isMeter measured covers package keptClasses.1 keptClasses.2⟩

theorem growing_foldedUnits (meters : List (Meter α)) :
    Growing .package name (foldedUnits meters (new .package name) units) :=
  (foldedUnits_keeps (fun _ => True) (fun _ _ _ _ _ _ _ => trivial) trivial units).1

theorem lookup_packageTree_of_not_mem {metric : String} (absent : metric ∉ metricNames meters)
    (path : List String) :
    (packageTree meters name units).lookup metric path = none := by
  rw [packageTree, lookup_finalizedTree_of_not_mem absent, lookup_foldedUnits_of_not_mem absent,
    lookup_new]

theorem finished_packageTree (meters : List (Meter α)) :
    Finished .package name (packageTree meters name units) := by
  refine finished_finalizedTree (growing_foldedUnits name units meters) ?_
  intro metric absent
  rw [lookup_foldedUnits_of_not_mem absent, lookup_new]

include distinct

theorem lookup_packageTree_nil {meter : Meter α} (present : meter ∈ meters) :
    (packageTree meters name units).lookup meter.metric.name [] =
      (meter.receivedAll [] (units.flatMap meter.kind.classValues) none).map
        (meter.policy.finalized meter.metric) := by
  rw [packageTree, lookup_finalizedTree_nil distinct present,
    lookup_foldedUnits distinct present, lookup_new]

theorem lookup_packageTree_cons {meter : Meter α} (present : meter ∈ meters) (part : String)
    (rest : List String) :
    (packageTree meters name units).lookup meter.metric.name (part :: rest) =
      meter.receivedAll (part :: rest) (units.flatMap meter.kind.classValues) none := by
  rw [packageTree, lookup_finalizedTree_cons, lookup_foldedUnits distinct present, lookup_new]

end

end Analysis

end CrateMetrics
