/-
Quantities that add up. Counts, weighted values and violations of the parts of a node come to
those of the node itself: folding in a class adds the same amount to the class and to the
package, and adding a package to a project adds its amount to the project.
-/

import CrateMetrics.Proofs.RollUp.ProjectTree

namespace CrateMetrics

open Measurement

variable {α M : Type}

/-- The values that the parts of a node have for a metric. -/
def Measurement.partValues (metric : String) (tree : Measurement α) : List (MetricValue α) :=
  tree.children.filterMap (fun child => child.value? metric)

variable [Scalar α]

/-- An amount of values. That of a merged value comes from the two that were merged, and that
of a collecting value from all that it collected. -/
structure Quantity (meter : Meter α) (M : Type) where
  zero : M
  add : M → M → M
  ofFinal : MetricValue α → M
  ofCollecting : MetricValue α → M
  add_zero : ∀ amount, add amount zero = amount
  add_comm : ∀ left right, add left right = add right left
  add_assoc : ∀ first second third, add (add first second) third = add first (add second third)
  merged : ∀ {known incoming : MetricValue α}, known.Final → incoming.Final →
    ofFinal (meter.policy.merged meter.metric known incoming) =
      add (ofFinal known) (ofFinal incoming)
  accumulated : ∀ whole part, ofCollecting (meter.policy.accumulated whole part) =
    add (ofCollecting whole) (ofFinal part)
  empty : ofCollecting (MetricValue.empty meter.metric.name) = zero

namespace Quantity

variable {meter : Meter α} (quantity : Quantity meter M)

def ofWhole (cell : Option (MetricValue α)) : M :=
  cell.elim quantity.zero quantity.ofCollecting

def ofPart (cell : Option (MetricValue α)) : M :=
  cell.elim quantity.zero quantity.ofFinal

def total (values : List (MetricValue α)) : M :=
  values.foldr (fun value rest => quantity.add (quantity.ofFinal value) rest) quantity.zero

theorem zero_add (amount : M) : quantity.add quantity.zero amount = amount := by
  rw [quantity.add_comm, quantity.add_zero]

theorem ofWhole_collected (incoming : MetricValue α) (cell : Option (MetricValue α)) :
    quantity.ofWhole (some (meter.collected incoming cell)) =
      quantity.add (quantity.ofWhole cell) (quantity.ofFinal incoming) := by
  cases cell with
  | none =>
      change quantity.ofCollecting (meter.policy.accumulated _ incoming) = _
      rw [quantity.accumulated]
      exact congrArg (quantity.add · _) quantity.empty
  | some whole => exact quantity.accumulated whole incoming

theorem ofPart_joined {incoming : MetricValue α} (isFinal : incoming.Final)
    {cell : Option (MetricValue α)} (finals : ∀ known, cell = some known → known.Final) :
    quantity.ofPart (some (meter.joined incoming cell)) =
      quantity.add (quantity.ofPart cell) (quantity.ofFinal incoming) := by
  cases cell with
  | none => exact (quantity.zero_add _).symm
  | some known => exact quantity.merged (finals known rfl) isFinal

/-! ### The parts of a node -/

theorem total_filterMap_cons {β : Type} (value? : β → Option (MetricValue α)) (head : β)
    (rest : List β) :
    quantity.total ((head :: rest).filterMap value?) =
      quantity.add (quantity.ofPart (value? head)) (quantity.total (rest.filterMap value?)) := by
  rw [List.filterMap_cons]
  cases value? head with
  | none => exact (quantity.zero_add _).symm
  | some value => rfl

/-- If the part that is put in has more than the one with its name, the parts together have
that much more. -/
theorem total_partValues_putPart (metric : String) (tree part : Measurement α) (gain : M)
    (gains : quantity.ofPart (part.value? metric) =
      quantity.add (quantity.ofPart (tree.lookup metric [part.name])) gain) :
    quantity.total ((tree.putPart part).partValues metric) =
      quantity.add (quantity.total (tree.partValues metric)) gain := by
  obtain ⟨scope, name, values, children⟩ := tree
  rw [lookup_cons] at gains
  change quantity.ofPart _ = quantity.add (quantity.ofPart
    ((children.find? (fun child => child.name == part.name)).bind _)) gain at gains
  change quantity.total ((put Measurement.name part children).filterMap _) =
    quantity.add (quantity.total (children.filterMap _)) gain
  induction children with
  | nil =>
      rw [put, quantity.total_filterMap_cons, gains]
      change quantity.add (quantity.add quantity.zero gain) quantity.zero =
        quantity.add quantity.zero gain
      rw [quantity.add_zero]
  | cons head rest ih =>
      rw [List.find?_cons] at gains
      by_cases same : head.name = part.name
      · rw [beq_iff_eq.mpr same] at gains
        rw [put, if_pos same, quantity.total_filterMap_cons, quantity.total_filterMap_cons, gains,
          quantity.add_assoc, quantity.add_comm gain, ← quantity.add_assoc]
        rfl
      · rw [beq_false_of_ne same] at gains
        rw [put, if_neg same, quantity.total_filterMap_cons, quantity.total_filterMap_cons,
          ih gains, quantity.add_assoc]

/-- The node has collected exactly what its parts have. -/
def Balanced (tree : Measurement α) : Prop :=
  quantity.ofWhole (tree.value? meter.metric.name) =
    quantity.total (tree.partValues meter.metric.name)

theorem balanced_new (scope : Scope) (name : String) : quantity.Balanced (.new scope name) := rfl

/-! ### Packages -/

/-- Folding in a class adds as much to the package as to its classes. -/
theorem Balanced.folded {other : Meter α}
    (apart : other.metric.name = meter.metric.name → other = meter)
    {measured : ClassValue α} (covers : 1 ≤ measured.count) {name : String}
    {package : Measurement α} (growing : Growing .package name package)
    (balanced : quantity.Balanced package) : quantity.Balanced (other.folded measured package) := by
  let updated := other.updatedClass measured (package.part? measured.name)
  have isNamed : updated.name = measured.name := other.name_updatedClass measured package
  have value := other.lookup_folded measured package meter.metric.name []
  have part := other.lookup_updatedClass measured (package.part? measured.name) meter.metric.name []
  rw [lookup_nil, lookup_nil] at value
  rw [lookup_nil] at part
  have before : (package.part? measured.name).bind (fun part => part.lookup meter.metric.name []) =
      package.lookup meter.metric.name [updated.name] := by
    rw [isNamed, lookup_cons]
  rw [before] at part
  change quantity.ofWhole ((other.folded measured package).value? _) =
    quantity.total ((package.putPart updated).partValues meter.metric.name)
  -- with its own metric both gain the same amount, with another one neither gains anything
  by_cases own : other.metric.name = meter.metric.name
  · have isMeter := apart own
    subst isMeter
    rw [if_pos rfl] at value part
    have finals (known : MetricValue α)
        (found : package.lookup other.metric.name [updated.name] = some known) : known.Final :=
      growing.final other.metric.name updated.name [] known found
    have isFinal : (other.incoming measured).Final := ⟨rfl, covers⟩
    have gains := quantity.ofPart_joined isFinal finals
    have more := quantity.total_partValues_putPart _ package updated _
      ((congrArg quantity.ofPart part).trans gains)
    rw [value, more, ← balanced]
    exact quantity.ofWhole_collected (other.incoming measured) _
  · rw [if_neg own] at value part
    have same := quantity.total_partValues_putPart meter.metric.name package updated quantity.zero
      (by rw [quantity.add_zero]; exact congrArg quantity.ofPart part)
    rw [value, same, quantity.add_zero]
    exact balanced

open Analysis

section

variable {meters : List (Meter α)} (present : meter ∈ meters)

include present

theorem balanced_foldedUnits (distinct : (metricNames meters).Nodup) (name : String)
    (units : List (List Event)) :
    quantity.Balanced (foldedUnits meters (.new .package name) units) := by
  refine (foldedUnits_keeps quantity.Balanced ?_ (quantity.balanced_new .package name) units).2
  intro other isMeter measured covers package growing balanced
  have apart (same : other.metric.name = meter.metric.name) : other = meter :=
    List.inj_on_of_nodup_map distinct isMeter present same
  exact Balanced.folded quantity apart covers growing balanced

/-! ### Projects -/

omit present in
theorem ofWhole_receivedFrom (value cell : Option (MetricValue α)) :
    quantity.ofWhole (meter.receivedFrom value cell) =
      quantity.add (quantity.ofWhole cell) (quantity.ofPart value) := by
  cases value with
  | none => exact (quantity.add_zero _).symm
  | some value => exact quantity.ofWhole_collected value cell

variable (once : (metricNames meters).count meter.metric.name = 1)

include once

/-- Each package adds its amount to the project, also if it is not the first of its name. -/
theorem ofWhole_foldedPackages (packages : List (Measurement α)) (project : Measurement α) :
    quantity.ofWhole
        ((packages.foldl (foldedPackage meters) project).value? meter.metric.name) =
      quantity.add (quantity.ofWhole (project.value? meter.metric.name))
        (quantity.total
          (packages.filterMap (fun package => package.value? meter.metric.name))) := by
  induction packages generalizing project with
  | nil => exact (quantity.add_zero _).symm
  | cons head rest ih =>
      have received := lookup_foldedPackage_once present once project head
      rw [lookup_nil, lookup_nil, lookup_nil] at received
      rw [List.foldl_cons, ih, received, quantity.ofWhole_receivedFrom, quantity.add_assoc,
        quantity.total_filterMap_cons]

theorem balanced_foldedPackages (name : String) {packages : List (Measurement α)}
    (distinct : (packages.map Measurement.name).Nodup) :
    quantity.Balanced (packages.foldl (foldedPackage meters) (.new .project name)) := by
  have children : (packages.foldl (foldedPackage meters) (.new .project name)).children =
      packages := children_foldedPackages meters distinct
  unfold Balanced
  rw [quantity.ofWhole_foldedPackages present once, partValues, children]
  exact quantity.zero_add _

end

/-- The number of elements that values cover. -/
def elements (meter : Meter α) : Quantity meter ℕ where
  zero := 0
  add := Nat.add
  ofFinal value := value.count
  ofCollecting whole := whole.count
  add_zero := Nat.add_zero
  add_comm := Nat.add_comm
  add_assoc := Nat.add_assoc
  merged _ _ := Policy.count_merged _ _ _ _
  accumulated whole part := Policy.count_accumulated _ whole part
  empty := rfl

end Quantity

end CrateMetrics
