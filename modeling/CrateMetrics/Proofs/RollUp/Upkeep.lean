/-
Trees stay tidy. Every change of a measurement keeps its identity, and keeps names apart and parts
one scope below the whole, everywhere in the tree. This holds of all measurements that can be
built, whatever values and parts they are given, and also of what a change leaves behind that fails
half way.
-/

import CrateMetrics.Analysis
import CrateMetrics.Proofs.RollUp.ClassTree

namespace CrateMetrics

open Edit

variable {α β : Type}

/-! ### Values -/

namespace MetricValue

def HasName (name : String) (value : MetricValue α) : Prop :=
  value.name = name

theorem keeps_requireFinal {σ : Type} {invariant : σ → Prop} (value : MetricValue α) :
    Keeps invariant (value.requireFinal : Edit σ Unit) :=
  Keeps.unless (fun _ => Keeps.ite (fun _ => keeps_throw _) (fun _ => keeps_pure ()))

end MetricValue

namespace Policy

variable [Scalar α] (policy : Policy) (metric : Metric α) (name : String)

theorem keeps_name_accumulate (part : MetricValue α) :
    Keeps (MetricValue.HasName name) (policy.accumulate part) := by
  refine part.keeps_requireFinal.bind (fun _ => keeps_get_bind ?_)
  intro whole named
  refine Keeps.unless (fun _ => ?_)
  cases policy with
  | average => exact keeps_set named
  | worstOf => exact keeps_set named

theorem keeps_name_merge (incoming : MetricValue α) :
    Keeps (MetricValue.HasName name) (policy.merge metric incoming) := by
  refine keeps_get_bind ?_
  intro known named
  refine known.keeps_requireFinal.bind (fun _ => incoming.keeps_requireFinal.bind (fun _ => ?_))
  cases policy with
  | average => exact keeps_set named
  | worstOf => exact keeps_set named

theorem keeps_name_finalize :
    Keeps (MetricValue.HasName name) (policy.finalize metric) := by
  refine keeps_get_bind ?_
  intro whole named
  refine Keeps.unless (fun _ => Keeps.unless (fun _ => ?_))
  cases policy with
  | average => exact keeps_set named
  | worstOf => exact keeps_set named

end Policy

/-! ### Single edits -/

namespace Measurement

/-- A tidy tree with the identity. -/
structure TidyAs (scope : Scope) (name : String) (tree : Measurement α) : Prop where
  hasScope : tree.scope = scope
  hasName : tree.name = name
  tidy : tree.Tidy

variable {scope : Scope} {name : String}

theorem keeps_insertValue (value : MetricValue α) :
    Keeps (TidyAs scope name) (insertValue value) := by
  refine keeps_get_bind ?_
  intro tree kept
  refine Keeps.unless (fun isNew => keeps_set ⟨kept.hasScope, kept.hasName, ?_⟩)
  have absent : tree.value? value.name = none := Option.not_isSome_iff_eq_none.mp isNew
  have added := kept.tidy.putValue value
  rw [putValue, put_eq_append absent] at added
  exact added

theorem keeps_editValue {metric : String} {edit : Edit (MetricValue α) β}
    (keeps : Keeps (MetricValue.HasName metric) edit) :
    Keeps (TidyAs scope name) (editValue metric edit) := by
  refine keeps_get_bind ?_
  intro tree kept
  cases found : tree.value? metric with
  | none => exact keeps_pure none
  | some old =>
      have named : (edit.run.run old).2.name = metric := keeps old (name_of_value? found)
      dsimp only
      rcases ran : edit.run.run old with ⟨outcome, changed⟩
      rw [ran] at named
      have sameNames : (replaceFirst (fun value => value.name == metric) changed tree.values).map
          MetricValue.name = tree.values.map MetricValue.name :=
        keys_replaceFirst (fun value here => (eq_of_beq here).trans named.symm) tree.values
      have tidy : Tidy { tree with
          values := replaceFirst (fun value => value.name == metric) changed tree.values } :=
        .intro (sameNames ▸ kept.tidy.values_nodup) kept.tidy.parts_nodup
          (fun _ present => kept.tidy.finer present) (fun _ present => kept.tidy.child present)
      refine (keeps_set ⟨kept.hasScope, kept.hasName, tidy⟩).bind (fun _ => ?_)
      cases outcome with
      | ok result => exact keeps_pure (some result)
      | error fault => exact keeps_throw fault

theorem keeps_addChild {child : Measurement α} (tidyChild : child.Tidy) :
    Keeps (TidyAs scope name) (addChild child) := by
  refine keeps_get_bind ?_
  intro tree kept
  refine Keeps.unless (fun placed => ?_)
  have finer : tree.scope.finer = some child.scope := by simpa using placed
  cases found : tree.child? child.scope child.name with
  | some known => exact keeps_pure known
  | none =>
      have absent : tree.part? child.name = none := by
        rw [← kept.tidy.child?_eq_part? finer, found]
      have added := kept.tidy.putPart finer tidyChild
      rw [putPart, put_eq_append absent] at added
      exact (keeps_set ⟨kept.hasScope, kept.hasName, added⟩).bind (fun _ => keeps_pure child)

theorem keeps_editChild {part : Scope} {partName : String} {edit : Edit (Measurement α) Unit}
    (keeps : Keeps (TidyAs part partName) edit) :
    Keeps (TidyAs scope name) (editChild part partName edit) := by
  refine keeps_get_bind ?_
  intro tree kept
  cases found : tree.child? part partName with
  | none => exact keeps_pure ()
  | some child =>
      have present : child ∈ tree.children := List.mem_of_find?_eq_some found
      have isPart : child.scope = part ∧ child.name = partName := by
        have named := List.find?_some found
        simpa [isNamed] using named
      have changes := keeps child ⟨isPart.1, isPart.2, kept.tidy.child present⟩
      dsimp only
      rcases ran : edit.run.run child with ⟨outcome, changed⟩
      rw [ran] at changes
      have sameNames : (replaceFirst (isNamed part partName) changed tree.children).map
          Measurement.name = tree.children.map Measurement.name := by
        apply keys_replaceFirst
        intro other here
        have named : other.scope = part ∧ other.name = partName := by simpa [isNamed] using here
        rw [named.2, changes.hasName]
      have tidy : Tidy { tree with
          children := replaceFirst (isNamed part partName) changed tree.children } := by
        refine .intro kept.tidy.values_nodup (sameNames ▸ kept.tidy.parts_nodup) ?_ ?_
        · intro other isChild
          rcases mem_of_mem_replaceFirst isChild with rfl | old
          · have finer := kept.tidy.finer present
            rwa [isPart.1, ← changes.hasScope] at finer
          · exact kept.tidy.finer old
        · intro other isChild
          rcases mem_of_mem_replaceFirst isChild with rfl | old
          · exact changes.tidy
          · exact kept.tidy.child old
      refine (keeps_set ⟨kept.hasScope, kept.hasName, tidy⟩).bind (fun _ => ?_)
      cases outcome with
      | ok result => exact keeps_pure ()
      | error fault => exact keeps_throw fault

end Measurement

open Measurement

/-! ### Edits by meters -/

namespace Meter

variable {scope : Scope} {name : String}

theorem keeps_overwrite (value : MetricValue α) :
    Keeps (TidyAs scope name) (overwrite value) := by
  refine (keeps_editValue (keeps_set rfl)).bind (fun found => ?_)
  cases found with
  | some _ => exact keeps_pure ()
  | none => exact keeps_insertValue value

theorem keeps_overlayEdit (meter : Meter α) {method : Measurement α} (tidy : method.Tidy) :
    Keeps (TidyAs scope name) (meter.overlayEdit method) := by
  refine (keeps_addChild tidy).bind (fun _ => ?_)
  cases method.value? meter.metric.name with
  | none => exact keeps_pure ()
  | some value => exact keeps_editChild (keeps_overwrite value)

variable [Scalar α] (meter : Meter α)

theorem keeps_mergeClass (incoming : MetricValue α) {methods : List (Measurement α)}
    (tidy : ∀ method, method ∈ methods → method.Tidy) :
    Keeps (TidyAs scope name) (meter.mergeClass incoming methods) := by
  have overlaid : Keeps (TidyAs scope name) (methods.forM meter.overlayEdit) :=
    keeps_forM (fun method present => meter.keeps_overlayEdit (tidy method present))
  refine (keeps_editValue (meter.policy.keeps_name_merge _ _ incoming)).bind (fun merged => ?_)
  cases merged with
  | some _ => exact (keeps_pure ()).bind (fun _ => overlaid)
  | none => exact (keeps_insertValue incoming).bind (fun _ => overlaid)

theorem keeps_accumulateInto (incoming : MetricValue α) :
    Keeps (TidyAs scope name) (meter.accumulateInto incoming) := by
  have accumulated : Keeps (TidyAs scope name) (do
      let _ ← editValue meter.metric.name (meter.policy.accumulate incoming)) :=
    (keeps_editValue (meter.policy.keeps_name_accumulate _ incoming)).bind (fun _ => keeps_pure ())
  refine keeps_get_bind (fun tree _ => Keeps.ite (fun _ => ?_) (fun _ => accumulated))
  exact (keeps_insertValue _).bind (fun _ => accumulated)

theorem keeps_fold {child : Measurement α} (tidy : child.Tidy) :
    Keeps (TidyAs scope name) (meter.fold child) := by
  unfold fold
  cases child.value? meter.metric.name with
  | none => exact (keeps_addChild tidy).bind (fun _ => keeps_pure ())
  | some incoming =>
      refine keeps_get_bind (fun tree _ => (keeps_addChild tidy).bind (fun _ => ?_))
      have contributes : Keeps (TidyAs scope name) (meter.accumulateInto incoming) :=
        meter.keeps_accumulateInto incoming
      refine Keeps.ite (fun _ => ?_) (fun _ => contributes)
      refine (keeps_editChild ?_).bind (fun _ => contributes)
      exact meter.keeps_mergeClass incoming (fun method present => tidy.child present)

theorem keeps_finalize : Keeps (TidyAs scope name) meter.finalize :=
  (keeps_editValue (meter.policy.keeps_name_finalize _ _)).bind (fun _ => keeps_pure ())

end Meter

namespace Analysis

variable [Scalar α] (meters : List (Meter α)) {scope : Scope} {name : String}

theorem keeps_finalizeAll : Keeps (TidyAs scope name) (finalizeAll meters) :=
  keeps_forM (fun meter _ => meter.keeps_finalize)

theorem keeps_foldPackage {package : Measurement α} (tidy : package.Tidy) :
    Keeps (TidyAs scope name) (foldPackage meters package) := by
  refine (keeps_addChild tidy).bind (fun _ => keeps_forM (fun meter _ => ?_))
  cases package.value? meter.metric.name with
  | none => exact keeps_pure ()
  | some value => exact meter.keeps_accumulateInto value

theorem tidy_of_analyzeProject {metrics : List (Metric α)} {name : String}
    {packages : List (Measurement α)} (tidy : ∀ package, package ∈ packages → package.Tidy)
    {project : Measurement α} (succeeds : analyzeProject metrics name packages = .ok project) :
    project.Tidy := by
  unfold analyzeProject at succeeds
  cases isMeters : Meter.all metrics with
  | error fault =>
      rw [isMeters] at succeeds
      cases succeeds
  | ok meters =>
      rw [isMeters] at succeeds
      have takes := takes_of_edit_eq succeeds
      have keeps : Keeps (TidyAs .project name) (do
          packages.forM (foldPackage meters)
          finalizeAll meters) :=
        (keeps_forM (fun package present => keeps_foldPackage meters (tidy package present))).bind
          (fun _ => keeps_finalizeAll meters)
      have kept := keeps (.new .project name) ⟨rfl, rfl, tidy_new .project name⟩
      rw [takes] at kept
      exact kept.tidy

end Analysis

/-! ### Measurements that can be built -/

namespace Measurement

/-- A change of a measurement or of one of the parts that it holds. -/
inductive Change (α : Type) where
  | insertValue (value : MetricValue α)
  | addChild (child : Measurement α)
  | fold (meter : Meter α) (child : Measurement α)
  | accumulate (meter : Meter α) (incoming : MetricValue α)
  | finalize (meter : Meter α)
  /-- A change of the child with this identity. -/
  | inside (scope : Scope) (name : String) (change : Change α)

namespace Change

/-- The measurement that is added or folded in. -/
def part? : Change α → Option (Measurement α)
  | .addChild child | .fold _ child => some child
  | .insertValue _ | .accumulate _ _ | .finalize _ => none
  | .inside _ _ change => change.part?

variable [Scalar α]

def edit : Change α → Edit (Measurement α) Unit
  | .insertValue value => Measurement.insertValue value
  | .addChild child => do
      let _ ← Measurement.addChild child
  | .fold meter child => meter.fold child
  | .accumulate meter incoming => meter.accumulateInto incoming
  | .finalize meter => meter.finalize
  | .inside scope name change => editChild scope name change.edit

/-- What the measurement is after the change, whether it succeeded or failed half way. -/
def after (change : Change α) (tree : Measurement α) : Measurement α :=
  (change.edit.run.run tree).2

theorem keeps_edit (change : Change α) {scope : Scope} {name : String}
    (tidy : ∀ child, change.part? = some child → child.Tidy) :
    Keeps (TidyAs scope name) change.edit := by
  induction change generalizing scope name with
  | insertValue value => exact keeps_insertValue value
  | addChild child => exact (keeps_addChild (tidy child rfl)).bind (fun _ => keeps_pure ())
  | fold meter child => exact meter.keeps_fold (tidy child rfl)
  | accumulate meter incoming => exact meter.keeps_accumulateInto incoming
  | finalize meter => exact meter.keeps_finalize
  | inside part partName change ih => exact keeps_editChild (ih tidy)

end Change

variable [Scalar α]

/-- What changes make of new measurements, and of projects that were rolled up. The parts that they
are given are built as well; what a failed change leaves is kept. -/
inductive Built : Measurement α → Prop
  | fresh (scope : Scope) (name : String) : Built (new scope name)
  | changed {tree : Measurement α} (built : Built tree) (change : Change α)
      (parts : ∀ child, change.part? = some child → Built child) : Built (change.after tree)
  | project {metrics : List (Metric α)} {name : String} {packages : List (Measurement α)}
      (parts : ∀ package, package ∈ packages → Built package) {tree : Measurement α}
      (succeeds : Analysis.analyzeProject metrics name packages = .ok tree) : Built tree

theorem Built.tidy {tree : Measurement α} (built : tree.Built) : tree.Tidy := by
  induction built with
  | fresh scope name => exact tidy_new scope name
  | changed _ change _ ih tidyParts =>
      exact (change.keeps_edit tidyParts _ ⟨rfl, rfl, ih⟩).tidy
  | project _ succeeds tidyParts => exact Analysis.tidy_of_analyzeProject tidyParts succeeds

/-- However a measurement was built, at every node of its tree the metrics have different names,
the children have different identities, and each child lies one scope below. -/
theorem Built.apart_at {tree : Measurement α} (built : tree.Built) {path : List String}
    {node : Measurement α} (lies : tree.At path node) :
    (node.values.map MetricValue.name).Nodup ∧
      (node.children.map (fun child => (child.scope, child.name))).Nodup ∧
      ∀ child, child ∈ node.children → node.scope.finer = some child.scope := by
  have tidy := built.tidy.of_at lies
  refine ⟨tidy.values_nodup, ?_, fun child present => tidy.finer present⟩
  apply List.Nodup.of_map Prod.snd
  rw [List.map_map]
  exact tidy.parts_nodup

/-- A class over no elements, which no package takes. -/
def emptyPoint : Measurement Float :=
  (Change.insertValue (.final "lcom4" 1 0 false)).after (new .type "Point")

def cohesionMeter : Meter Float :=
  { kind := .cohesion, metric := { name := "lcom4", limit := .atMost 1 } }

/-- The package is left with the class and an empty value. -/
theorem halfFolded_apart :
    let folding : Change Float := .fold cohesionMeter emptyPoint
    let package := folding.after (folding.after (new .package "shapes"))
    folding.edit.run.run (new .package "shapes") =
        (.error (.invariant (.noElements "lcom4")), folding.after (new .package "shapes")) ∧
      package.Built ∧ package.At ["Point"] emptyPoint ∧
      (package.values.map MetricValue.name).Nodup ∧
      (emptyPoint.values.map MetricValue.name).Nodup := by
  intro folding package
  have point : emptyPoint.Built := .changed (.fresh .type "Point") _ (fun _ none => nomatch none)
  have parts (child : Measurement Float) (isPart : folding.part? = some child) : child.Built := by
    cases isPart
    exact point
  have built : package.Built := .changed (.changed (.fresh .package "shapes") folding parts) _ parts
  have lies : package.At ["Point"] emptyPoint := .inside (List.Mem.head _) (.here emptyPoint)
  exact ⟨rfl, built, lies, (built.apart_at (.here package)).1, (built.apart_at lies).1⟩

end Measurement

end CrateMetrics
