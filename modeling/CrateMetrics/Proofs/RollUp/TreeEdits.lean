/-
What edits make of tidy trees. An edit that inserts, adds or changes a value or a part puts
it into the tree; at all other paths, and for all other metrics, the tree stays the same.
-/

import CrateMetrics.Proofs.Editing
import CrateMetrics.Proofs.RollUp.Tree
import Mathlib.Data.List.Find

namespace CrateMetrics.Measurement

open Edit

variable {α : Type}

/-! ### Putting values and parts into a node -/

/-- The node with the value in the place of the one for its metric. -/
def putValue (tree : Measurement α) (value : MetricValue α) : Measurement α :=
  { tree with values := put MetricValue.name value tree.values }

def putPart (tree part : Measurement α) : Measurement α :=
  { tree with children := put Measurement.name part tree.children }

theorem name_putValue (tree : Measurement α) (value : MetricValue α) :
    (tree.putValue value).name = tree.name := rfl

theorem value?_putValue (tree : Measurement α) (value : MetricValue α) (metric : String) :
    (tree.putValue value).value? metric =
      if value.name = metric then some value else tree.value? metric :=
  find?_put MetricValue.name value tree.values metric

theorem part?_putPart (tree part : Measurement α) (name : String) :
    (tree.putPart part).part? name = if part.name = name then some part else tree.part? name :=
  find?_put Measurement.name part tree.children name

theorem lookup_putValue (tree : Measurement α) (value : MetricValue α) (metric : String)
    (path : List String) :
    (tree.putValue value).lookup metric path =
      if path = [] ∧ value.name = metric then some value else tree.lookup metric path := by
  cases path with
  | nil =>
      rw [lookup_nil, value?_putValue, lookup_nil]
      simp only [true_and]
  | cons name rest =>
      rw [if_neg (fun both => List.cons_ne_nil name rest both.1), lookup_cons, lookup_cons]
      rfl

theorem lookup_putPart_nil (tree part : Measurement α) (metric : String) :
    (tree.putPart part).lookup metric [] = tree.lookup metric [] := rfl

theorem lookup_putPart_cons (tree part : Measurement α) (metric name : String)
    (rest : List String) :
    (tree.putPart part).lookup metric (name :: rest) =
      if part.name = name then part.lookup metric rest
      else tree.lookup metric (name :: rest) := by
  rw [lookup_cons, part?_putPart, lookup_cons]
  by_cases same : part.name = name
  · rw [if_pos same, if_pos same]
    rfl
  · rw [if_neg same, if_neg same]

theorem putValue_putValue (tree : Measurement α) {first second : MetricValue α}
    (same : first.name = second.name) :
    (tree.putValue first).putValue second = tree.putValue second := by
  rw [putValue, putValue, putValue, put_put same]

theorem putPart_putPart (tree : Measurement α) {first second : Measurement α}
    (same : first.name = second.name) :
    (tree.putPart first).putPart second = tree.putPart second := by
  rw [putPart, putPart, putPart, put_put same]

theorem Tidy.putValue {tree : Measurement α} (tidy : tree.Tidy) (value : MetricValue α) :
    (tree.putValue value).Tidy :=
  Tidy.intro (nodup_keys_put value tidy.values_nodup) tidy.parts_nodup
    (fun _ present => tidy.finer present) (fun _ present => tidy.child present)

theorem Tidy.putPart {tree part : Measurement α} (tidy : tree.Tidy)
    (finer : tree.scope.finer = some part.scope) (tidyPart : part.Tidy) :
    (tree.putPart part).Tidy := by
  refine Tidy.intro tidy.values_nodup (nodup_keys_put part tidy.parts_nodup) ?_ ?_
  · intro child present
    rcases mem_of_mem_put present with isPart | old
    · rw [isPart]
      exact finer
    · exact tidy.finer old
  · intro child present
    rcases mem_of_mem_put present with isPart | old
    · rw [isPart]
      exact tidyPart
    · exact tidy.child old

theorem tidy_new (scope : Scope) (name : String) : (new scope name : Measurement α).Tidy :=
  Tidy.intro List.nodup_nil List.nodup_nil (fun _ present => by cases present)
    (fun _ present => by cases present)

theorem lookup_new (scope : Scope) (name metric : String) (path : List String) :
    (new scope name : Measurement α).lookup metric path = none := by
  cases path with
  | nil => rfl
  | cons head rest => rfl

/-! ### What the edits put -/

theorem takes_insertValue {value : MetricValue α} {tree : Measurement α}
    (absent : tree.value? value.name = none) :
    Takes (insertValue value) tree () (tree.putValue value) := by
  have appended : tree.putValue value = { tree with values := tree.values ++ [value] } := by
    rw [putValue, put_eq_append absent]
  unfold insertValue
  refine (takes_get tree).bind ?_
  rw [absent, appended]
  exact takes_set tree _

theorem takes_editValue {β : Type} {metric : String} {edit : Edit (MetricValue α) β}
    {tree : Measurement α} {old changed : MetricValue α} {result : β}
    (found : tree.value? metric = some old) (takes : Takes edit old result changed)
    (sameName : changed.name = metric) :
    Takes (editValue metric edit) tree (some result) (tree.putValue changed) := by
  have replaced : tree.putValue changed =
      { tree with
        values := replaceFirst (fun value => value.name == metric) changed tree.values } := by
    subst sameName
    have present : (tree.value? changed.name).isSome := by rw [found]; rfl
    rw [putValue, put_eq_replaceFirst present]
  unfold editValue
  refine (takes_get tree).bind ?_
  rw [found, replaced]
  dsimp only
  rw [show edit.run.run old = (.ok result, changed) from takes]
  exact (takes_set tree _).bind (takes_pure _ _)

theorem takes_of_takes_editValue {β : Type} {metric : String} {edit : Edit (MetricValue α) β}
    {tree after : Measurement α} {old : MetricValue α} {result : Option β}
    (found : tree.value? metric = some old)
    (takes : Takes (editValue metric edit) tree result after) :
    ∃ part changed, Takes edit old part changed := by
  unfold editValue at takes
  have edited := takes.of_get_bind
  rw [found] at edited
  rcases ran : edit.run.run old with ⟨outcome, changed⟩
  dsimp only at edited
  rw [ran] at edited
  obtain ⟨_, _, _, returned⟩ := edited.of_bind
  cases outcome with
  | error fault => cases returned
  | ok part => exact ⟨part, changed, ran⟩

theorem takes_editValue_none {β : Type} {metric : String} (edit : Edit (MetricValue α) β)
    {tree : Measurement α} (absent : tree.value? metric = none) :
    Takes (editValue metric edit) tree none tree := by
  unfold editValue
  refine (takes_get tree).bind ?_
  rw [absent]
  exact takes_pure none tree

section

variable {tree : Measurement α} (tidy : tree.Tidy) {scope : Scope}
  (finer : tree.scope.finer = some scope)

include tidy finer

/-- All children of a tidy node have the same scope, so their names tell them apart. -/
private theorem isNamed_eq (name : String) (child : Measurement α)
    (present : child ∈ tree.children) : isNamed scope name child = (child.name == name) := by
  have isFiner := tidy.finer present
  rw [finer] at isFiner
  rw [isNamed, Option.some.inj isFiner, beq_self_eq_true, Bool.true_and]

theorem Tidy.child?_eq_part? (name : String) : tree.child? scope name = tree.part? name :=
  List.find?_congr (isNamed_eq tidy finer name)

private theorem putPart_eq_replaceFirst (part : Measurement α)
    (present : (tree.part? part.name).isSome) :
    tree.putPart part =
      { tree with children := replaceFirst (isNamed scope part.name) part tree.children } := by
  rw [putPart, put_eq_replaceFirst present]
  congr 1
  exact replaceFirst_congr (fun child inside => (isNamed_eq tidy finer part.name child inside).symm)

end

theorem takes_addChild_new {tree child : Measurement α} (tidy : tree.Tidy)
    (finer : tree.scope.finer = some child.scope)
    (absent : tree.part? child.name = none) :
    Takes (addChild child) tree child (tree.putPart child) := by
  have appended : tree.putPart child = { tree with children := tree.children ++ [child] } := by
    rw [putPart, put_eq_append absent]
  rw [appended]
  exact takes_addChild_absent finer ((tidy.child?_eq_part? finer child.name).trans absent)

theorem takes_editChild {scope : Scope} {edit : Edit (Measurement α) Unit}
    {tree child : Measurement α} (changed : Measurement α) (tidy : tree.Tidy)
    (finer : tree.scope.finer = some scope) (found : tree.part? changed.name = some child)
    (takes : Takes edit child () changed) :
    Takes (editChild scope changed.name edit) tree () (tree.putPart changed) := by
  have isChild : tree.child? scope changed.name = some child := by
    rw [tidy.child?_eq_part? finer, found]
  have present : (tree.part? changed.name).isSome := by rw [found]; rfl
  unfold editChild
  refine (takes_get tree).bind ?_
  rw [isChild, putPart_eq_replaceFirst tidy finer changed present]
  dsimp only
  rw [show edit.run.run child = (.ok (), changed) from takes]
  exact (takes_set tree _).bind (takes_pure _ _)

end CrateMetrics.Measurement
