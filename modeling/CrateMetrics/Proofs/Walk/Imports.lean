/-
What use trees bind. They are visited with one path, which is put back after each tree, and record
one binding for every leaf. It is the one that the language has for the leaf, except if `self` is
renamed: then the name stands for a member of the module that is called `self`, not for the module.
-/

import CrateMetrics.Proofs.Walk.UseLeaves
import CrateMetrics.SourceUnit
import Mathlib.Data.List.Forall2

namespace CrateMetrics.Rust

/-! ### Visiting with one path -/

/-- The path that a visit is at, and the bindings that it has recorded. -/
structure UseCursor where
  path : List String
  bindings : List (String × List String)

def UseCursor.record (cursor : UseCursor) (bound : String) (target : List String) : UseCursor :=
  { cursor with bindings := cursor.bindings ++ [(bound, target)] }

mutual

/-- Visits a tree. The path grows on the way down and shrinks on the way back. -/
def UseTree.visit (cursor : UseCursor) : UseTree → UseCursor
  | .path segment rest =>
      let below := rest.visit { cursor with path := cursor.path ++ [segment] }
      { below with path := below.path.dropLast }
  | .name leaf =>
      if leaf = "self" then
        match cursor.path.getLast? with
        | none => cursor
        | some last => cursor.record last cursor.path
      else cursor.record leaf (cursor.path ++ [leaf])
  | .rename leaf bound => cursor.record bound (cursor.path ++ [leaf])
  | .glob => cursor
  | .group trees => UseTree.visitAll cursor trees

def UseTree.visitAll (cursor : UseCursor) : List UseTree → UseCursor
  | [] => cursor
  | tree :: rest => UseTree.visitAll (tree.visit cursor) rest

end

mutual

/-- A visit records the bindings of the tree and ends where it began. -/
theorem UseTree.visit_eq (cursor : UseCursor) : (tree : UseTree) →
    tree.visit cursor =
      { cursor with bindings := cursor.bindings ++ tree.bindings cursor.path }
  | .path segment rest => by
      rw [visit, rest.visit_eq, bindings]
      simp only [List.dropLast_concat]
  | .name leaf => by
      rw [visit, bindings]
      by_cases isSelf : leaf = "self"
      · rw [if_pos isSelf, if_pos isSelf]
        cases cursor.path.getLast? with
        | none => simp only [List.append_nil]
        | some last => rfl
      · rw [if_neg isSelf, if_neg isSelf]
        rfl
  | .rename leaf bound => rfl
  | .glob => by
      rw [visit, bindings, List.append_nil]
  | .group trees => by
      rw [visit, bindings, UseTree.visitAll_eq cursor trees]

theorem UseTree.visitAll_eq (cursor : UseCursor) : (trees : List UseTree) →
    UseTree.visitAll cursor trees =
      { cursor with bindings := cursor.bindings ++ UseTree.bindingsOfAll cursor.path trees }
  | [] => by
      rw [visitAll, bindingsOfAll, List.append_nil]
  | tree :: rest => by
      rw [visitAll, tree.visit_eq cursor, UseTree.visitAll_eq _ rest, bindingsOfAll,
        List.append_assoc]

end

/-! ### What leaves bind -/

namespace UseLeaf

/-- The name that a leaf brings into scope, with the path that it stands for. -/
inductive Binds : UseLeaf → String × List String → Prop
  | name {above : List String} {name : String} (ordinary : name ≠ "self") :
      Binds { above, name } (name, above ++ [name])
  | renamed {above : List String} {name bound : String} (ordinary : name ≠ "self") :
      Binds { above, name, rename := some bound } (bound, above ++ [name])
  | module {above : List String} {last : String} :
      Binds { above := above ++ [last], name := "self" } (last, above ++ [last])
  | renamedModule {above : List String} {bound : String} (within : above ≠ []) :
      Binds { above, name := "self", rename := some bound } (bound, above)

def isRenamedSelf (leaf : UseLeaf) : Bool :=
  leaf.name == "self" && leaf.rename.isSome

/-- What is kept of a renamed `self` at the end of the path that the name stands for. -/
def leftover (leaf : UseLeaf) : List String :=
  if leaf.isRenamedSelf then ["self"] else []

/-- The binding that is recorded for a leaf: what it binds, with what is left over. -/
def Records (leaf : UseLeaf) (binding : String × List String) : Prop :=
  ∃ target, leaf.Binds (binding.1, target) ∧ binding.2 = target ++ leaf.leftover

theorem leftover_eq_nil_iff (leaf : UseLeaf) :
    leaf.leftover = [] ↔ leaf.isRenamedSelf = false := by
  unfold leftover
  cases leaf.isRenamedSelf with
  | false => exact iff_of_true rfl rfl
  | true => exact iff_of_false (List.cons_ne_nil "self" []) (fun same => nomatch same)

/-- Every leaf binds something, a `self` that stands in no path excepted. -/
theorem exists_binds {leaf : UseLeaf} (placed : leaf.name = "self" → leaf.above ≠ []) :
    ∃ binding, leaf.Binds binding := by
  obtain ⟨above, name, rename⟩ := leaf
  by_cases isSelf : name = "self"
  · subst isSelf
    have within : above ≠ [] := placed rfl
    cases rename with
    | some bound => exact ⟨_, .renamedModule within⟩
    | none =>
        obtain ⟨front, last, rfl⟩ := (List.eq_nil_or_concat' above).resolve_left within
        exact ⟨_, .module⟩
  · cases rename with
    | some bound => exact ⟨_, .renamed isSelf⟩
    | none => exact ⟨_, .name isSelf⟩

theorem Binds.binding?_eq {leaf : UseLeaf} {binding : String × List String}
    (binds : leaf.Binds binding) :
    leaf.binding? = some (binding.1, binding.2 ++ leaf.leftover) := by
  cases binds with
  | name ordinary => simp [binding?, bound?, target, leftover, isRenamedSelf, ordinary]
  | renamed ordinary => simp [binding?, leftover, isRenamedSelf, ordinary]
  | module => simp [binding?, bound?, target, leftover, isRenamedSelf]
  | renamedModule _ => simp [binding?, leftover, isRenamedSelf]

/-- What is recorded is what the leaf binds, unless it renames `self`. -/
theorem Records.binds_iff {leaf : UseLeaf} {binding : String × List String}
    (records : leaf.Records binding) : leaf.Binds binding ↔ leaf.isRenamedSelf = false := by
  obtain ⟨name, recorded⟩ := binding
  obtain ⟨target, binds, rfl⟩ := records
  rw [← leftover_eq_nil_iff]
  constructor
  · intro alsoBinds
    have same := binds.binding?_eq.symm.trans alsoBinds.binding?_eq
    have targets := (Prod.mk.inj (Option.some.inj same)).2
    exact List.self_eq_append_right.mp (List.append_cancel_right targets)
  · intro nothing
    rw [nothing, List.append_nil]
    exact binds

end UseLeaf

/-- One binding is recorded for each leaf, in source order. -/
theorem UseTree.records_bindings (tree : UseTree) (above : List String)
    (placed : ∀ leaf ∈ tree.leaves, leaf.name = "self" → above ++ leaf.above ≠ []) :
    List.Forall₂ UseLeaf.Records (tree.leaves.map (UseLeaf.under above)) (tree.bindings above) := by
  rw [tree.bindings_eq above]
  generalize tree.leaves = leaves at placed ⊢
  induction leaves with
  | nil => exact .nil
  | cons head rest ih =>
      obtain ⟨atHead, atRest⟩ := List.forall_mem_cons.mp placed
      have headPlaced : (head.under above).name = "self" → (head.under above).above ≠ [] := atHead
      obtain ⟨binding, binds⟩ := UseLeaf.exists_binds headPlaced
      rw [List.map_cons, List.filterMap_cons_some binds.binding?_eq]
      exact .cons ⟨binding.2, binds, rfl⟩ (ih atRest)

private theorem forall₂_binds_iff {leaves : List UseLeaf} {bindings : List (String × List String)}
    (records : List.Forall₂ UseLeaf.Records leaves bindings) :
    List.Forall₂ UseLeaf.Binds leaves bindings ↔
      ∀ leaf ∈ leaves, leaf.isRenamedSelf = false := by
  induction records with
  | nil => simp
  | cons first _ ih => rw [List.forall₂_cons, first.binds_iff, ih, List.forall_mem_cons]

/-! ### Paths through imported names -/

private theorem ascend_concat (module segments : List String) {last : String}
    (stays : last ≠ "super") :
    ascend module (segments ++ [last]) = ascend module segments ++ [last] := by
  induction segments generalizing module with
  | nil => rw [List.nil_append, ascend_cons stays, ascend_nil]
  | cons head rest ih =>
      by_cases climbs : head = "super"
      · subst climbs
        rw [List.cons_append, ascend, ascend, ih]
      · rw [List.cons_append, ascend_cons climbs, ascend_cons climbs, List.append_assoc,
          List.cons_append]

/-- A path that goes on for one more segment leads to a place inside. -/
theorem resolveFrom_concat (module : List String) {segments : List String} (within : segments ≠ [])
    {last : String} (stays : last ≠ "super") :
    resolveFrom module (segments ++ [last]) = resolveFrom module segments ++ [last] := by
  cases segments with
  | nil => exact absurd rfl within
  | cons head rest =>
      by_cases fromCrate : head = "crate"
      · subst fromCrate
        rfl
      · by_cases fromSelf : head = "self"
        · subst fromSelf
          exact (List.append_assoc module rest [last]).symm
        · rw [List.cons_append, resolveFrom_cons fromCrate fromSelf,
            resolveFrom_cons fromCrate fromSelf]
          exact ascend_concat module (head :: rest) stays

namespace ModuleScope

variable (module : List String) (items : List Item)

/-- What is left over of a leaf stands between what its name means and the rest of a path. -/
theorem resolveFrom_leftover {leaf : UseLeaf} {bound : String} {target : List String}
    (binds : leaf.Binds (bound, target)) :
    resolveFrom module (target ++ leaf.leftover) = resolveFrom module target ++ leaf.leftover := by
  cases binds with
  | renamedModule within => exact resolveFrom_concat module within (by decide)
  | name ordinary => simp [UseLeaf.leftover, UseLeaf.isRenamedSelf]
  | renamed ordinary => simp [UseLeaf.leftover, UseLeaf.isRenamedSelf, ordinary]
  | module => simp [UseLeaf.leftover, UseLeaf.isRenamedSelf]

/-- A path that starts with an imported name leads on from what the name stands for. -/
theorem resolve_imported {before after : List UseLeaf} {leaf : UseLeaf} {bound : String}
    {target : List String} (leaves : useLeaves items = before ++ leaf :: after)
    (binds : leaf.Binds (bound, target)) (last : ∀ other ∈ after, other.bound? ≠ some bound)
    (rest : List String) :
    (ofItems module items).resolve (bound :: rest) =
      resolveFrom module target ++ (leaf.leftover ++ rest) := by
  rw [resolve, imported?_of_last module items leaves binds.binding?_eq last,
    ← List.append_assoc, ← resolveFrom_leftover module binds]

end ModuleScope

open ModuleScope (useLeaves ofItems)

/-- A visit ends on the path that it began on and records one binding for each leaf, in source
order. They are what the leaves bind exactly if none of them renames `self`. In a module, a path
that starts with an imported name then leads on from what the last leaf with this name binds it to;
that of a renamed `self` leads to its member `self`. -/
theorem UseTree.visit_records (tree : UseTree) (above : List String)
    (found : List (String × List String))
    (placed : ∀ leaf ∈ tree.leaves, leaf.name = "self" → above ++ leaf.above ≠ []) :
    tree.visit ⟨above, found⟩ = ⟨above, found ++ tree.bindings above⟩ ∧
    List.Forall₂ UseLeaf.Records (tree.leaves.map (UseLeaf.under above)) (tree.bindings above) ∧
    (List.Forall₂ UseLeaf.Binds (tree.leaves.map (UseLeaf.under above)) (tree.bindings above) ↔
      ∀ leaf ∈ tree.leaves, leaf.isRenamedSelf = false) ∧
    ∀ (module : List String) (items : List Item) (before after : List UseLeaf) (leaf : UseLeaf)
      (bound : String) (target rest : List String), useLeaves items = before ++ leaf :: after →
      leaf.Binds (bound, target) → (∀ other ∈ after, other.bound? ≠ some bound) →
        (ofItems module items).resolve (bound :: rest) =
          resolveFrom module target ++ if leaf.isRenamedSelf then "self" :: rest else rest := by
  have records := tree.records_bindings above placed
  refine ⟨tree.visit_eq ⟨above, found⟩, records, ?_, ?_⟩
  · rw [forall₂_binds_iff records, List.forall_mem_map]
    rfl
  · intro module items before after leaf bound target rest leaves binds last
    rw [ModuleScope.resolve_imported module items leaves binds last rest, UseLeaf.leftover]
    cases leaf.isRenamedSelf with
    | true => rfl
    | false => rfl

/-- What stands below `crate` in a use item. -/
def geometryImports : UseTree :=
  .path "geometry" (.group [.name "self",
    .path "grid" (.group [.rename "self" "lattice", .name "Cell", .rename "Row" "Line"]),
    .path "lines" .glob])

theorem geometryImports_recorded :
    (∀ leaf ∈ geometryImports.leaves, leaf.name = "self" → ["crate"] ++ leaf.above ≠ []) ∧
    geometryImports.visit ⟨["crate"], []⟩ =
      ⟨["crate"], [("geometry", ["crate", "geometry"]),
        ("lattice", ["crate", "geometry", "grid", "self"]),
        ("Cell", ["crate", "geometry", "grid", "Cell"]),
        ("Line", ["crate", "geometry", "grid", "Row"])]⟩ ∧
    ¬ List.Forall₂ UseLeaf.Binds (geometryImports.leaves.map (UseLeaf.under ["crate"]))
      (geometryImports.bindings ["crate"]) ∧
    (ofItems ["app"] [.use [] (.path "crate" geometryImports)]).resolve ["Line", "Part"] =
      ["geometry", "grid", "Row", "Part"] := by
  have placed : ∀ leaf ∈ geometryImports.leaves,
      leaf.name = "self" → ["crate"] ++ leaf.above ≠ [] := by decide
  obtain ⟨visits, _, binds, resolves⟩ := geometryImports.visit_records ["crate"] [] placed
  refine ⟨placed, visits, ?_, ?_⟩
  · rw [binds]
    decide
  · let line : UseLeaf :=
      { above := ["crate", "geometry", "grid"], name := "Row", rename := some "Line" }
    have isLine : line.Binds ("Line", ["crate", "geometry", "grid", "Row"]) :=
      .renamed (by decide)
    let items : List Item := [.use [] (.path "crate" geometryImports)]
    have leaves : useLeaves items = (useLeaves items).dropLast ++ line :: [] := by decide
    exact resolves ["app"] items _ [] line "Line" _ ["Part"] leaves isLine
      (fun _ present => nomatch present)

/-- `use crate::shapes::grid::{self as lattice}` -/
def latticeImport : UseTree :=
  .path "crate" (.path "shapes" (.path "grid" (.group [.rename "self" "lattice"])))

/-- A file that imports a module under another name, and the file of this module. -/
def latticeUnits : List SourceUnit :=
  [{ name := "src/lib.rs"
     source := "use crate::shapes::grid::{self as lattice}; impl lattice::Cell {}" },
    { name := "src/shapes/grid.rs", source := "pub struct Cell;", module := ["shapes", "grid"] }]

/-- The new name is not recorded for the module, and so the `impl` block is counted for another
class than the declaration. -/
theorem latticeUnits_part_cell :
    latticeImport.bindings [] = [("lattice", ["crate", "shapes", "grid", "self"])] ∧
    ¬ List.Forall₂ UseLeaf.Binds latticeImport.leaves (latticeImport.bindings []) ∧
    latticeUnits.map (fun unit => unit.tree.toOption.map (fun file => file.walk unit.module)) =
      [some [.enterClass "shapes::grid::self::Cell", .exitClass "shapes::grid::self::Cell"],
        some [.enterClass "shapes::grid::Cell", .exitClass "shapes::grid::Cell"]] := by
  refine ⟨rfl, ?_, by decide +kernel⟩
  have placed : ∀ leaf ∈ latticeImport.leaves, leaf.name = "self" → [] ++ leaf.above ≠ [] := by
    decide
  have records := latticeImport.records_bindings [] placed
  intro binds
  exact absurd ((forall₂_binds_iff records).mp binds) (by decide)

end CrateMetrics.Rust
