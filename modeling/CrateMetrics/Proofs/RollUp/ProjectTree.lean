/-
The tree of a project. Finished packages are added to the project and contribute their values
to its values; of packages with one name only the first is added, but all contribute.
-/

import CrateMetrics.Proofs.RollUp.Measuring

namespace CrateMetrics

open Edit Measurement

variable {α : Type}

/-- The project with the package, unless it has one with this name. -/
def Measurement.withPackage (project package : Measurement α) : Measurement α :=
  match project.part? package.name with
  | none => project.putPart package
  | some _ => project

theorem Measurement.lookup_withPackage_nil (project package : Measurement α)
    (metric : String) :
    (project.withPackage package).lookup metric [] = project.lookup metric [] := by
  unfold withPackage
  cases project.part? package.name with
  | none => rfl
  | some known => rfl

namespace Analysis

section

variable {name packageName : String} {project package : Measurement α}
  (finished : Finished .package packageName package)
  (growing : Growing .project name project)

include finished growing

theorem growing_withPackage : Growing .project name (project.withPackage package) := by
  have finer : project.scope.finer = some package.scope := by
    rw [growing.hasScope, finished.hasScope]
    rfl
  unfold withPackage
  cases found : project.part? package.name with
  | some known => exact growing
  | none =>
      refine ⟨growing.hasScope, growing.hasName, growing.tidy.putPart finer finished.tidy,
        growing.collecting, ?_⟩
      intro metric part rest value isValue
      rw [lookup_putPart_cons] at isValue
      by_cases same : package.name = part
      · rw [if_pos same] at isValue
        exact finished.final metric rest value isValue
      · rw [if_neg same] at isValue
        exact growing.final metric part rest value isValue

theorem takes_addPackage :
    ∃ known, Takes (addChild package) project known (project.withPackage package) := by
  have finer : project.scope.finer = some package.scope := by
    rw [growing.hasScope, finished.hasScope]
    rfl
  unfold withPackage
  cases found : project.part? package.name with
  | none => exact ⟨package, takes_addChild_new growing.tidy finer found⟩
  | some known =>
      refine ⟨known, takes_addChild_known finer ?_⟩
      rw [growing.tidy.child?_eq_part? finer]
      exact found

end

end Analysis

variable [Scalar α]

def Meter.receivedFrom (meter : Meter α) (value cell : Option (MetricValue α)) :
    Option (MetricValue α) :=
  match value with
  | none => cell
  | some value => some (meter.collected value cell)

namespace Analysis

def contributed (package project : Measurement α) (meter : Meter α) : Measurement α :=
  match package.value? meter.metric.name with
  | none => project
  | some value =>
      project.putValue (meter.collected value (project.value? meter.metric.name))

def foldedPackage (meters : List (Meter α)) (project package : Measurement α) :
    Measurement α :=
  meters.foldl (contributed package) (project.withPackage package)

def projectTree (meters : List (Meter α)) (name : String) (packages : List (Measurement α)) :
    Measurement α :=
  finalizedTree meters (packages.foldl (foldedPackage meters) (new .project name))

/-! ### Values -/

theorem lookup_contributed (package project : Measurement α) (meter : Meter α)
    (metric : String) (path : List String) :
    (contributed package project meter).lookup metric path =
      if path = [] ∧ meter.metric.name = metric then
        meter.receivedFrom (package.lookup metric []) (project.lookup metric [])
      else project.lookup metric path := by
  unfold contributed
  cases found : package.value? meter.metric.name with
  | none =>
      by_cases here : path = [] ∧ meter.metric.name = metric
      · rw [if_pos here, here.1, ← here.2, lookup_nil, lookup_nil, found]
        rfl
      · rw [if_neg here]
  | some value =>
      rw [lookup_putValue, Meter.name_collected]
      by_cases here : path = [] ∧ meter.metric.name = metric
      · rw [if_pos here, if_pos here, ← here.2, lookup_nil, lookup_nil, found]
        rfl
      · rw [if_neg here, if_neg here]

theorem lookup_foldedPackage_once {meters : List (Meter α)} {meter : Meter α}
    (present : meter ∈ meters) (once : (metricNames meters).count meter.metric.name = 1)
    (project package : Measurement α) :
    (foldedPackage meters project package).lookup meter.metric.name [] =
      meter.receivedFrom (package.lookup meter.metric.name [])
        (project.lookup meter.metric.name []) := by
  rw [← project.lookup_withPackage_nil package]
  apply lookup_foldl_once present once (meter.receivedFrom _)
  · intro tree
    rw [lookup_contributed, if_pos ⟨rfl, rfl⟩]
  · intro other different tree
    rw [lookup_contributed, if_neg (fun both => different both.2)]

theorem lookup_foldedPackage_nil {meters : List (Meter α)}
    (distinct : (metricNames meters).Nodup) {meter : Meter α} (present : meter ∈ meters)
    (project package : Measurement α) :
    (foldedPackage meters project package).lookup meter.metric.name [] =
      meter.receivedFrom (package.lookup meter.metric.name [])
        (project.lookup meter.metric.name []) :=
  lookup_foldedPackage_once present (count_metricNames distinct present) project package

theorem lookup_foldedPackage_of_not_mem {meters : List (Meter α)} {metric : String}
    (absent : metric ∉ metricNames meters) (project package : Measurement α) :
    (foldedPackage meters project package).lookup metric [] = project.lookup metric [] := by
  rw [← project.lookup_withPackage_nil package]
  apply lookup_foldl_of_same
  intro meter present tree
  rw [lookup_contributed, if_neg]
  rintro ⟨_, same⟩
  exact absent (List.mem_map.mpr ⟨meter, present, same⟩)

/-! ### Parts -/

theorem children_foldedPackage (meters : List (Meter α)) (project package : Measurement α) :
    (foldedPackage meters project package).children = (project.withPackage package).children := by
  refine List.foldlRecOn
    (motive := fun after : Measurement α => after.children = (project.withPackage package).children)
    meters _ rfl ?_
  intro after same meter _
  unfold contributed
  cases package.value? meter.metric.name with
  | none => exact same
  | some value => exact same

theorem part?_foldedPackage (meters : List (Meter α)) (project package : Measurement α)
    (name : String) :
    (foldedPackage meters project package).part? name =
      (project.part? name).or (if package.name = name then some package else none) := by
  have same : (foldedPackage meters project package).part? name =
      (project.withPackage package).part? name := by
    rw [part?, part?, children_foldedPackage]
  rw [same, withPackage]
  cases found : project.part? package.name with
  | none =>
      rw [part?_putPart]
      by_cases same : package.name = name
      · rw [if_pos same, if_pos same, ← same, found, Option.none_or]
      · rw [if_neg same, if_neg same, Option.or_none]
  | some known =>
      by_cases same : package.name = name
      · rw [← same, found, Option.some_or]
      · rw [if_neg same, Option.or_none]

/-- The part with a name is the first package with this name. -/
theorem part?_projectTree (meters : List (Meter α)) (project : String)
    (packages : List (Measurement α)) (name : String) :
    (projectTree meters project packages).part? name =
      packages.find? (fun package => package.name == name) := by
  have folds (packages : List (Measurement α)) (tree : Measurement α) :
      (packages.foldl (foldedPackage meters) tree).part? name =
        (tree.part? name).or (packages.find? (fun package => package.name == name)) := by
    induction packages generalizing tree with
    | nil => exact (Option.or_none).symm
    | cons head rest ih =>
        rw [List.foldl_cons, ih, part?_foldedPackage, Option.or_assoc, List.find?_cons]
        by_cases same : head.name = name
        · rw [if_pos same, beq_iff_eq.mpr same, Option.some_or]
        · rw [if_neg same, beq_false_of_ne same, Option.none_or]
  rw [projectTree, part?, children_finalizedTree]
  exact folds packages (new .project project)

theorem children_foldedPackages (meters : List (Meter α)) {packages : List (Measurement α)}
    {project : Measurement α}
    (distinct : ((project.children ++ packages).map Measurement.name).Nodup) :
    (packages.foldl (foldedPackage meters) project).children = project.children ++ packages := by
  induction packages generalizing project with
  | nil => exact (List.append_nil _).symm
  | cons head rest ih =>
      have absent : project.part? head.name = none := by
        rw [part?, List.find?_eq_none]
        intro child present same
        rw [List.map_append, List.nodup_append] at distinct
        exact distinct.2.2 child.name (List.mem_map_of_mem present) head.name (List.Mem.head _)
          (eq_of_beq same)
      have added : (foldedPackage meters project head).children = project.children ++ [head] := by
        rw [children_foldedPackage, withPackage, absent]
        exact put_eq_append absent
      rw [List.foldl_cons, ih, added, List.append_assoc]
      · rfl
      · rw [added, List.append_assoc]
        exact distinct

/-- Packages with different names are all parts of the project, in their order. -/
theorem children_projectTree (meters : List (Meter α)) (project : String)
    {packages : List (Measurement α)} (distinct : (packages.map Measurement.name).Nodup) :
    (projectTree meters project packages).children = packages := by
  rw [projectTree, children_finalizedTree]
  exact children_foldedPackages meters distinct

/-! ### No rule is broken -/

section

variable {name packageName : String} {project package : Measurement α}
  (finished : Finished .package packageName package)
  (growing : Growing .project name project)

include finished growing

private theorem takes_contribute (meter : Meter α) :
    Takes (do
      match package.value? meter.metric.name with
      | none => return ()
      | some value => meter.accumulateInto value) project () (contributed package project meter) ∧
      Growing .project name (contributed package project meter) := by
  unfold contributed
  cases found : package.value? meter.metric.name with
  | none => exact ⟨takes_pure () project, growing⟩
  | some value =>
      have isFinal : value.Final := finished.final meter.metric.name [] value found
      have collects (whole : MetricValue α)
          (isWhole : project.value? meter.metric.name = some whole) : whole.pending = true :=
        (growing.collecting meter.metric.name whole isWhole).pending
      refine ⟨meter.takes_accumulateInto project collects isFinal, growing.hasScope,
        growing.hasName, growing.tidy.putValue _, ?_, ?_⟩
      · intro metric whole isWhole
        rw [lookup_putValue, Meter.name_collected] at isWhole
        by_cases own : [] = ([] : List String) ∧ meter.metric.name = metric
        · rw [if_pos own] at isWhole
          cases isWhole
          exact meter.collecting_collected isFinal collects
        · rw [if_neg own] at isWhole
          exact growing.collecting metric whole isWhole
      · intro metric part rest other isOther
        rw [lookup_putValue, if_neg (fun both => List.cons_ne_nil part rest both.1)] at isOther
        exact growing.final metric part rest other isOther

theorem takes_foldPackage (meters : List (Meter α)) :
    Takes (foldPackage meters package) project () (foldedPackage meters project package) ∧
      Growing .project name (foldedPackage meters project package) := by
  obtain ⟨known, adds⟩ := takes_addPackage finished growing
  have contributes := takes_forM (Growing .project name) (contributed package) _ meters
    (fun meter _ project growing => takes_contribute finished growing meter)
    (project.withPackage package) (growing_withPackage finished growing)
  exact ⟨adds.bind contributes.1, contributes.2⟩

end

section

variable {meters : List (Meter α)} (distinct : (metricNames meters).Nodup) (name : String)
  {packages : List (Measurement α)}
  (finished : ∀ package, package ∈ packages → ∃ own, Finished .package own package)

include finished

theorem takes_foldPackages (meters : List (Meter α)) :
    Takes (packages.forM (foldPackage meters)) (new .project name) ()
        (packages.foldl (foldedPackage meters) (new .project name)) ∧
      Growing .project name (packages.foldl (foldedPackage meters) (new .project name)) :=
  takes_forM (Growing .project name) (foldedPackage meters) _ packages
    (fun package present project growing => by
      obtain ⟨own, isFinished⟩ := finished package present
      exact takes_foldPackage isFinished growing meters)
    (new .project name) (growing_new .project name)

theorem finished_projectTree (meters : List (Meter α)) :
    Finished .project name (projectTree meters name packages) := by
  refine finished_finalizedTree (takes_foldPackages name finished meters).2 ?_
  intro metric absent
  rw [lookup_foldl_of_same (fun package _ project =>
    lookup_foldedPackage_of_not_mem absent project package), lookup_new]

include distinct

/-- Rolling packages up to a project never breaks a rule of aggregation. -/
theorem takes_project :
    Takes (do
      packages.forM (foldPackage meters)
      finalizeAll meters) (new .project name) () (projectTree meters name packages) := by
  have folds := takes_foldPackages name finished meters
  refine folds.1.bind (takes_finalizeAll distinct ?_)
  intro meter _ whole found
  exact folds.2.collecting meter.metric.name whole found

end

theorem analyzeProject_eq {metrics : List (Metric α)} (known : Metric.Known metrics)
    (project : String) {packages : List (Measurement α)}
    (finished : ∀ package, package ∈ packages → ∃ own, Finished .package own package) :
    analyzeProject metrics project packages =
      .ok (projectTree (metrics.map Meter.ofMetric) project packages) := by
  unfold analyzeProject
  rw [Meter.all_eq known]
  exact edit_eq (takes_project (metricNames_nodup known) project finished)

end Analysis

end CrateMetrics
