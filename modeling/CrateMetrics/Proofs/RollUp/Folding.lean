/-
Folding the classes of a unit into a package. At each path of the package, a class that is
folded in changes only the value of its own metric, and only at its own name or below; this
is what the cell at the path receives.
-/

import CrateMetrics.Proofs.RollUp.ClassTree

namespace CrateMetrics

open Edit Measurement

variable {α : Type}

namespace Measurement

/-- A package or project into which parts are being folded. Its own values collect, those of
its parts are final. -/
structure Growing (scope : Scope) (name : String) (tree : Measurement α) : Prop where
  hasScope : tree.scope = scope
  hasName : tree.name = name
  tidy : tree.Tidy
  collecting : ∀ metric value, tree.lookup metric [] = some value → value.Collecting
  final : ∀ metric name rest value,
    tree.lookup metric (name :: rest) = some value → value.Final

theorem growing_new (scope : Scope) (name : String) :
    Growing scope name (new scope name : Measurement α) where
  hasScope := rfl
  hasName := rfl
  tidy := tidy_new scope name
  collecting metric value found := by
    rw [lookup_new] at found
    cases found
  final metric part rest value found := by
    rw [lookup_new] at found
    cases found

/-- A measurement whose values are all reported as they stand. -/
structure Finished (scope : Scope) (name : String) (tree : Measurement α) : Prop where
  hasScope : tree.scope = scope
  hasName : tree.name = name
  tidy : tree.Tidy
  final : ∀ metric path value, tree.lookup metric path = some value → value.Final

theorem Finished.final_of_at {scope : Scope} {name : String} {tree : Measurement α}
    (finished : Finished scope name tree) {path : List String} {node : Measurement α}
    (lies : tree.At path node) {value : MetricValue α} (present : value ∈ node.values) :
    value.Final := by
  apply finished.final value.name path value
  rw [finished.tidy.lookup_of_at lies]
  exact (finished.tidy.of_at lies).value?_of_mem present

end Measurement

namespace Meter

variable [Scalar α] (meter : Meter α)

/-! ### Contributions to the whole -/

/-- The collecting value after a contribution, on top of the one that is known. -/
def collected (incoming : MetricValue α) (known : Option (MetricValue α)) : MetricValue α :=
  meter.policy.accumulated (known.getD (MetricValue.empty meter.metric.name)) incoming

theorem name_collected (incoming : MetricValue α) (tree : Measurement α) :
    (meter.collected incoming (tree.value? meter.metric.name)).name = meter.metric.name := by
  rw [collected, Policy.name_accumulated]
  cases found : tree.value? meter.metric.name with
  | none => rfl
  | some known => exact name_of_value? found

theorem collecting_collected {incoming : MetricValue α} (isFinal : incoming.Final)
    {known : Option (MetricValue α)}
    (collects : ∀ whole, known = some whole → whole.pending = true) :
    (meter.collected incoming known).Collecting := by
  apply isFinal.accumulated
  cases known with
  | none => rfl
  | some whole => exact collects whole rfl

theorem takes_accumulateInto (tree : Measurement α)
    (collects : ∀ whole, tree.value? meter.metric.name = some whole → whole.pending = true)
    {incoming : MetricValue α} (isFinal : incoming.Final) :
    Takes (meter.accumulateInto incoming) tree ()
      (tree.putValue (meter.collected incoming (tree.value? meter.metric.name))) := by
  have sameName := meter.name_collected incoming tree
  unfold accumulateInto
  refine (takes_get tree).bind ?_
  cases found : tree.value? meter.metric.name with
  | none =>
      let empty : MetricValue α := MetricValue.empty meter.metric.name
      have inserted : (tree.putValue empty).value? meter.metric.name = some empty := by
        rw [value?_putValue]
        exact if_pos rfl
      rw [found] at sameName
      have accumulates := takes_editValue inserted
        (meter.policy.takes_accumulate rfl isFinal) sameName
      rw [putValue_putValue tree sameName.symm] at accumulates
      exact (takes_insertValue found).bind (accumulates.bind (takes_pure () _))
  | some whole =>
      rw [found] at sameName
      have accumulates := takes_editValue found
        (meter.policy.takes_accumulate (collects whole found) isFinal) sameName
      exact accumulates.bind (takes_pure () _)

/-! ### Folding in a class -/

section

variable (measured : ClassValue α)

def incoming : MetricValue α :=
  meter.finalValue measured.value measured.count

def classReceived : List String → Option (MetricValue α) → Option (MetricValue α)
  | [], cell => some (meter.joined (meter.incoming measured) cell)
  | name :: rest, cell =>
      ((meter.classMeasurement measured).lookup meter.metric.name (name :: rest)).or cell

/-- What the cell at a path of the package receives from a class that is folded in. -/
def received : List String → Option (MetricValue α) → Option (MetricValue α)
  | [], cell => some (meter.collected (meter.incoming measured) cell)
  | name :: rest, cell =>
      if measured.name = name then meter.classReceived measured rest cell else cell

/-- The class of a package after one with its name was folded in. -/
def updatedClass : Option (Measurement α) → Measurement α
  | none => meter.classMeasurement measured
  | some known =>
      meter.mergedClass (meter.incoming measured) (meter.classMeasurement measured).children known

def folded (package : Measurement α) : Measurement α :=
  (package.putPart (meter.updatedClass measured (package.part? measured.name))).putValue
    (meter.collected (meter.incoming measured) (package.value? meter.metric.name))

theorem lookup_updatedClass (known : Option (Measurement α)) (metric : String)
    (path : List String) :
    (meter.updatedClass measured known).lookup metric path =
      if meter.metric.name = metric then
        meter.classReceived measured path (known.bind (fun part => part.lookup metric path))
      else known.bind (fun part => part.lookup metric path) := by
  have methods := meter.measuredMethods_classMeasurement measured
  by_cases own : meter.metric.name = metric
  · subst own
    rw [if_pos rfl]
    cases known with
    | none =>
        cases path with
        | nil =>
            rw [updatedClass, lookup_nil, value?_classMeasurement, if_pos rfl]
            rfl
        | cons name rest => rw [updatedClass, classReceived, Option.bind_none, Option.or_none]
    | some part =>
        cases path with
        | nil =>
            rw [updatedClass, lookup_mergedClass_nil meter rfl, if_pos rfl]
            rfl
        | cons name rest =>
            rw [updatedClass, meter.lookup_mergedClass_cons _ methods,
              ← lookup_classMeasurement_cons]
            rfl
  · rw [if_neg own]
    cases known with
    | none => exact meter.lookup_classMeasurement_of_ne measured own path
    | some part =>
        cases path with
        | nil =>
            rw [updatedClass, lookup_mergedClass_nil meter rfl, if_neg own]
            rfl
        | cons name rest =>
            rw [updatedClass, meter.lookup_mergedClass_cons _ methods,
              ← lookup_classMeasurement_cons, lookup_classMeasurement_of_ne meter measured own]
            rfl

theorem name_updatedClass (package : Measurement α) :
    (meter.updatedClass measured (package.part? measured.name)).name = measured.name := by
  cases found : package.part? measured.name with
  | none => rfl
  | some known =>
      rw [updatedClass, name_mergedClass]
      exact name_of_part? found

theorem lookup_folded (package : Measurement α) (metric : String) (path : List String) :
    (meter.folded measured package).lookup metric path =
      if meter.metric.name = metric then
        meter.received measured path (package.lookup metric path)
      else package.lookup metric path := by
  rw [folded, lookup_putValue, name_collected]
  cases path with
  | nil =>
      by_cases own : meter.metric.name = metric
      · subst own
        rw [if_pos ⟨rfl, rfl⟩, if_pos rfl, lookup_nil]
        rfl
      · rw [if_neg (fun both => own both.2), if_neg own, lookup_putPart_nil]
  | cons name rest =>
      rw [if_neg (fun both => List.cons_ne_nil name rest both.1), lookup_putPart_cons,
        name_updatedClass, received]
      by_cases here : measured.name = name
      · subst here
        rw [if_pos rfl, if_pos rfl, lookup_updatedClass, lookup_cons]
      · rw [if_neg here, if_neg here, ite_self]

variable {measured} (covers : 1 ≤ measured.count)

include covers

private theorem final_of_classReceived {path : List String} {cell : Option (MetricValue α)}
    {value : MetricValue α} (finals : ∀ known, cell = some known → known.Final)
    (isValue : meter.classReceived measured path cell = some value) : value.Final := by
  cases path with
  | nil =>
      cases isValue
      cases cell with
      | none => exact ⟨rfl, covers⟩
      | some known => exact (finals known rfl).merged
  | cons name rest =>
      rw [classReceived] at isValue
      rcases Option.or_eq_some_iff.mp isValue with byUnit | ⟨_, before⟩
      · exact meter.final_of_lookup_classMeasurement measured covers byUnit
      · exact finals value before

variable {name : String} {package : Measurement α} (growing : Growing .package name package)

include growing

private theorem takes_mergeClass_known {known : Measurement α}
    (found : package.part? measured.name = some known) :
    Takes (meter.mergeClass (meter.incoming measured) (meter.classMeasurement measured).children)
        known () (meter.updatedClass measured (some known)) ∧
      (meter.updatedClass measured (some known)).Tidy ∧
      (meter.updatedClass measured (some known)).scope = .type := by
  have present := mem_of_part? found
  have isType : known.scope = .type := by
    have finer := growing.tidy.finer present
    rw [growing.hasScope] at finer
    exact (Option.some.inj finer).symm
  refine takes_mergeClass meter (growing.tidy.child present) isType
    (meter.measuredMethods_classMeasurement measured) _ rfl ⟨rfl, covers⟩ ?_
  intro value isValue
  apply growing.final meter.metric.name measured.name [] value
  rw [lookup_cons, found]
  exact isValue

private theorem keeps_updatedClass :
    (meter.updatedClass measured (package.part? measured.name)).Tidy ∧
      (meter.updatedClass measured (package.part? measured.name)).scope = .type := by
  cases found : package.part? measured.name with
  | none => exact ⟨meter.tidy_classMeasurement measured, rfl⟩
  | some known => exact (meter.takes_mergeClass_known covers growing found).2

theorem takes_fold :
    Takes (meter.fold (meter.classMeasurement measured)) package ()
      (meter.folded measured package) := by
  let child := meter.classMeasurement measured
  have finer : package.scope.finer = some child.scope := by
    rw [growing.hasScope]
    rfl
  have isFinal : (meter.incoming measured).Final := ⟨rfl, covers⟩
  have collects (whole : MetricValue α)
      (isWhole : package.value? meter.metric.name = some whole) : whole.pending = true :=
    (growing.collecting meter.metric.name whole isWhole).pending
  have accumulates (part : Measurement α) :
      Takes (meter.accumulateInto (meter.incoming measured)) (package.putPart part) ()
        ((package.putPart part).putValue
          (meter.collected (meter.incoming measured) (package.value? meter.metric.name))) :=
    takes_accumulateInto meter (package.putPart part) collects isFinal
  have isIncoming : child.value? meter.metric.name = some (meter.incoming measured) := by
    rw [value?_classMeasurement]
    exact if_pos rfl
  have sameName : (meter.classMeasurement measured).name = measured.name := rfl
  unfold fold folded
  rw [isIncoming]
  refine (takes_get package).bind ?_
  rw [growing.tidy.child?_eq_part? finer, sameName]
  cases found : package.part? measured.name with
  | none => exact (takes_addChild_new growing.tidy finer found).bind (accumulates child)
  | some known =>
      have isKnown : package.child? child.scope child.name = some known := by
        rw [growing.tidy.child?_eq_part? finer]
        exact found
      have updated := meter.name_updatedClass measured package
      rw [found] at updated
      have edited := takes_editChild (meter.updatedClass measured (some known)) growing.tidy
        finer (updated ▸ found) (meter.takes_mergeClass_known covers growing found).1
      rw [updated] at edited
      exact (takes_addChild_known finer isKnown).bind (edited.bind (accumulates _))

theorem growing_folded : Growing .package name (meter.folded measured package) := by
  have keeps := meter.keeps_updatedClass covers growing
  have finer : package.scope.finer =
      some (meter.updatedClass measured (package.part? measured.name)).scope := by
    rw [growing.hasScope, keeps.2]
    rfl
  have isFinal : (meter.incoming measured).Final := ⟨rfl, covers⟩
  constructor
  · exact growing.hasScope
  · exact growing.hasName
  · exact (growing.tidy.putPart finer keeps.1).putValue _
  · intro metric value found
    rw [lookup_folded] at found
    by_cases own : meter.metric.name = metric
    · rw [if_pos own] at found
      cases found
      exact meter.collecting_collected isFinal
        (fun whole isWhole => (growing.collecting metric whole isWhole).pending)
    · rw [if_neg own] at found
      exact growing.collecting metric value found
  · intro metric name rest value found
    rw [lookup_folded] at found
    by_cases own : meter.metric.name = metric
    · rw [if_pos own, received] at found
      by_cases here : measured.name = name
      · rw [if_pos here] at found
        exact meter.final_of_classReceived covers (growing.final metric name rest) found
      · rw [if_neg here] at found
        exact growing.final metric name rest value found
    · rw [if_neg own] at found
      exact growing.final metric name rest value found

end

end Meter

end CrateMetrics
