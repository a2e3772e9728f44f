/-
Leaves of use trees. Every leaf that is no glob brings one name into scope: its own, the one it is
renamed to, or for a bare `self` the last one of the path above it. What the imports of a module
resolve is found by looking at their leaves.
-/

import CrateMetrics.Rust.Resolution
import Mathlib.Data.List.Basic

namespace CrateMetrics.Rust

/-- A name at the end of a use tree, with the path above it. -/
structure UseLeaf where
  above : List String := []
  name : String
  rename : Option String := none
  deriving DecidableEq

namespace UseLeaf

def under (above : List String) (leaf : UseLeaf) : UseLeaf :=
  { leaf with above := above ++ leaf.above }

/-- The name that the leaf brings into scope. -/
def bound? (leaf : UseLeaf) : Option String :=
  match leaf.rename with
  | some bound => some bound
  | none => if leaf.name = "self" then leaf.above.getLast? else some leaf.name

/-- The path that the leaf means. `self` is the path above it. -/
def target (leaf : UseLeaf) : List String :=
  if leaf.name = "self" then leaf.above else leaf.above ++ [leaf.name]

/-- The binding of the leaf as it is recorded. A renamed `self` is recorded as a name of its own. -/
def binding? (leaf : UseLeaf) : Option (String × List String) :=
  match leaf.rename with
  | some bound => some (bound, leaf.above ++ [leaf.name])
  | none => leaf.bound?.map (fun bound => (bound, leaf.target))

theorem bound?_eq_binding? (leaf : UseLeaf) : leaf.bound? = leaf.binding?.map Prod.fst := by
  obtain ⟨above, name, rename⟩ := leaf
  cases rename with
  | some bound => rfl
  | none =>
      rw [binding?, Option.map_map]
      exact Option.map_id'.symm

theorem binding?_eq {leaf : UseLeaf} (plain : leaf.name = "self" → leaf.rename = none) :
    leaf.binding? = leaf.bound?.map (fun bound => (bound, leaf.target)) := by
  obtain ⟨above, name, rename⟩ := leaf
  cases rename with
  | none => rfl
  | some bound =>
      have ordinary : name ≠ "self" := fun isSelf => nomatch plain isSelf
      simp [binding?, bound?, target, ordinary]

end UseLeaf

mutual

/-- The leaves in source order. -/
def UseTree.leaves : UseTree → List UseLeaf
  | .path segment rest => rest.leaves.map (UseLeaf.under [segment])
  | .name leaf => [{ name := leaf }]
  | .rename leaf bound => [{ name := leaf, rename := some bound }]
  | .glob => []
  | .group trees => UseTree.leavesOfAll trees

def UseTree.leavesOfAll : List UseTree → List UseLeaf
  | [] => []
  | tree :: rest => tree.leaves ++ UseTree.leavesOfAll rest

end

mutual

/-- A use tree records the bindings of its leaves, below what stands above the tree. -/
theorem UseTree.bindings_eq (above : List String) : (tree : UseTree) →
    tree.bindings above = (tree.leaves.map (UseLeaf.under above)).filterMap UseLeaf.binding?
  | .path segment rest => by
      rw [bindings, rest.bindings_eq (above ++ [segment]), leaves, List.map_map]
      congr 2
      funext leaf
      simp [UseLeaf.under]
  | .name leaf => by
      by_cases isSelf : leaf = "self"
      · cases last : above.getLast? with
        | none =>
            simp [bindings, leaves, UseLeaf.binding?, UseLeaf.under, UseLeaf.bound?, isSelf, last]
        | some bound =>
            simp [bindings, leaves, UseLeaf.binding?, UseLeaf.under, UseLeaf.bound?, UseLeaf.target,
              isSelf, last]
      · simp [bindings, leaves, UseLeaf.binding?, UseLeaf.under, UseLeaf.bound?, UseLeaf.target,
          isSelf]
  | .rename leaf bound => by simp [bindings, leaves, UseLeaf.binding?, UseLeaf.under]
  | .glob => rfl
  | .group trees => by rw [bindings, leaves, UseTree.bindingsOfAll_eq above trees]

theorem UseTree.bindingsOfAll_eq (above : List String) : (trees : List UseTree) →
    UseTree.bindingsOfAll above trees =
      ((UseTree.leavesOfAll trees).map (UseLeaf.under above)).filterMap UseLeaf.binding?
  | [] => rfl
  | tree :: rest => by
      rw [bindingsOfAll, tree.bindings_eq above, UseTree.bindingsOfAll_eq above rest, leavesOfAll,
        List.map_append, List.filterMap_append]

end

namespace ModuleScope

/-- The leaves of the imports that stand directly in a module. -/
def useLeaves (items : List Item) : List UseLeaf :=
  items.flatMap (fun
    | .use _ tree => tree.leaves
    | _ => [])

theorem useBindings_eq (items : List Item) :
    useBindings items = (useLeaves items).filterMap UseLeaf.binding? := by
  have above (tree : UseTree) : tree.bindings [] = tree.leaves.filterMap UseLeaf.binding? := by
    rw [tree.bindings_eq []]
    congr 1
    exact List.map_id _
  unfold useBindings useLeaves
  rw [List.filterMap_flatMap]
  congr 1
  funext item
  cases item with
  | use _ tree => exact above tree
  | _ => rfl

variable (path : List String) (items : List Item)

private theorem imported?_ofItems (name : String) :
    (ofItems path items).imported? name =
      (((useLeaves items).filterMap UseLeaf.binding?).reverse.find?
        (fun binding => binding.1 == name)).map (fun binding => resolveFrom path binding.2) := by
  rw [imported?, ofItems, ← List.map_reverse, List.find?_map, Option.map_map, useBindings_eq]
  rfl

theorem imported?_of_unbound {name : String}
    (unbound : ∀ leaf ∈ useLeaves items, leaf.bound? ≠ some name) :
    (ofItems path items).imported? name = none := by
  rw [imported?_ofItems, Option.map_eq_none_iff, List.find?_eq_none]
  intro binding present same
  obtain ⟨leaf, isLeaf, records⟩ := List.mem_filterMap.mp (List.mem_reverse.mp present)
  apply unbound leaf isLeaf
  rw [leaf.bound?_eq_binding?, records]
  exact congrArg some (eq_of_beq same)

/-- No import has a say in a path if none brings its first segment into scope. -/
theorem resolve_of_unbound {segments : List String}
    (unbound : ∀ first, segments.head? = some first →
      ∀ leaf ∈ useLeaves items, leaf.bound? ≠ some first) :
    (ofItems path items).resolve segments = resolveFrom path segments := by
  cases segments with
  | nil => exact (List.append_nil path).symm
  | cons first rest =>
      rw [resolve, imported?_of_unbound path items (unbound first rfl)]
      rfl

/-- Of the leaves that bring a name into scope the last one counts. -/
theorem imported?_of_last {before after : List UseLeaf} {leaf : UseLeaf}
    (leaves : useLeaves items = before ++ leaf :: after) {name : String} {target : List String}
    (records : leaf.binding? = some (name, target))
    (last : ∀ other ∈ after, other.bound? ≠ some name) :
    (ofItems path items).imported? name = some (resolveFrom path target) := by
  have none : (after.filterMap UseLeaf.binding?).reverse.find?
      (fun binding => binding.1 == name) = none := by
    rw [List.find?_eq_none]
    intro binding present same
    obtain ⟨other, isLater, byOther⟩ := List.mem_filterMap.mp (List.mem_reverse.mp present)
    apply last other isLater
    rw [other.bound?_eq_binding?, byOther]
    exact congrArg some (eq_of_beq same)
  rw [imported?_ofItems, leaves, List.filterMap_append, List.filterMap_cons_some records,
    List.reverse_append, List.reverse_cons, List.append_assoc, List.find?_append, none,
    Option.none_or, List.singleton_append, List.find?_cons, beq_self_eq_true]
  rfl

/-- A name that one leaf alone brings into scope stands for what this leaf means. -/
theorem imported?_of_only {leaf : UseLeaf} (isLeaf : leaf ∈ useLeaves items) {name : String}
    (bound : leaf.bound? = some name) (plain : leaf.name = "self" → leaf.rename = none)
    (only : ∀ other ∈ useLeaves items, other.bound? = some name → other = leaf) :
    (ofItems path items).imported? name = some (resolveFrom path leaf.target) := by
  have records : leaf.binding? = some (name, leaf.target) := by
    rw [UseLeaf.binding?_eq plain, bound]
    rfl
  rw [imported?_ofItems, Option.map_eq_some_iff]
  refine ⟨(name, leaf.target), ?_, rfl⟩
  cases found : ((useLeaves items).filterMap UseLeaf.binding?).reverse.find?
      (fun binding => binding.1 == name) with
  | none =>
      have missing := List.find?_eq_none.mp found (name, leaf.target)
        (List.mem_reverse.mpr (List.mem_filterMap.mpr ⟨leaf, isLeaf, records⟩))
      exact absurd (beq_self_eq_true name) missing
  | some binding =>
      have matching := List.find?_some found
      have same : binding.1 = name := eq_of_beq matching
      obtain ⟨other, isOther, byOther⟩ := List.mem_filterMap.mp
        (List.mem_reverse.mp (List.mem_of_find?_eq_some found))
      have isLeaf : other = leaf := by
        apply only other isOther
        rw [other.bound?_eq_binding?, byOther, Option.map_some, same]
      rw [isLeaf, records] at byOther
      exact byOther.symm

end ModuleScope

end CrateMetrics.Rust
