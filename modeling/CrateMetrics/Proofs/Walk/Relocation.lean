/-
Inline modules and modules in files of their own. Names in a module are resolved by its path and its
own imports alone, so the walk does not see which of the two a module is: its items report the same
events in the same order, and the rest of the file it stood in reports what it did before.
-/

import CrateMetrics.Proofs.Walk.Placement
import CrateMetrics.SourceUnit

namespace CrateMetrics.Rust

/-- The items inside of inline modules with these names, the first one outermost. -/
def Item.nested : List String → List Item → List Item
  | [], items => items
  | name :: names, items => [.inlineModule [] name (some (Item.nested names items))]

namespace SourceFile

theorem walk_unmarked (items : List Item) (module : List String) :
    (SourceFile.mk [] items).walk module = Item.walkAll (.ofItems module items) items :=
  rfl

/-- Whatever the scope imports, an inline module reports what a file with its items does. -/
theorem walk_inlineModule (scope : ModuleScope) (name : String) (items : List Item) :
    (Item.inlineModule [] name (some items)).walk scope =
      (SourceFile.mk [] items).walk (scope.path ++ [name]) := by
  rw [Item.walk, walk_unmarked]
  rfl

/-- A module moves to a file of its own, and only its name stays behind. -/
theorem walk_beside (before after items : List Item) (name : String) (module : List String) :
    ∃ first last : List Event,
      (SourceFile.mk [] (before ++ .inlineModule [] name (some items) :: after)).walk module =
        first ++ (SourceFile.mk [] items).walk (module ++ [name]) ++ last ∧
      (SourceFile.mk [] (before ++ .inlineModule [] name none :: after)).walk module =
        first ++ last := by
  have scopes (content : Option (List Item)) :
      ModuleScope.ofItems module (before ++ .inlineModule [] name content :: after) =
        .ofItems module (before ++ after) := by
    simp [ModuleScope.ofItems, ModuleScope.useBindings]
  let scope := ModuleScope.ofItems module (before ++ after)
  have split (content : Option (List Item)) :
      (SourceFile.mk [] (before ++ .inlineModule [] name content :: after)).walk module =
        before.flatMap (Item.walk scope) ++
          ((Item.inlineModule [] name content).walk scope ++ after.flatMap (Item.walk scope)) := by
    rw [walk_unmarked, scopes, Item.walkAll_eq_flatMap, List.flatMap_append, List.flatMap_cons]
  refine ⟨before.flatMap (Item.walk scope), after.flatMap (Item.walk scope), ?_, ?_⟩
  · rw [split, walk_inlineModule, List.append_assoc]
    rfl
  · rw [split]
    rfl

/-- Moving items out of inline modules into a file of their own changes no event of the walk. -/
theorem walk_nested (items : List Item) (module names : List String) :
    (SourceFile.mk [] (Item.nested names items)).walk module =
      (SourceFile.mk [] items).walk (module ++ names) := by
  induction names generalizing module with
  | nil => rw [List.append_nil, Item.nested]
  | cons name names ih =>
      have outermost : (SourceFile.mk [] (Item.nested (name :: names) items)).walk module =
          (SourceFile.mk [] (Item.nested names items)).walk (module ++ [name]) := by
        rw [Item.nested, walk_unmarked, Item.walkAll, Item.walkAll, walk_inlineModule,
          List.append_nil]
        rfl
      rw [outermost, ih, List.append_assoc, List.singleton_append]

example :
    (SourceUnit.mk "src/lib.rs"
        "mod shapes { use crate::cells::Cell; impl Cell {} impl super::Grid {} }"
        []).events.toOption =
      (SourceUnit.mk "src/shapes.rs" "use crate::cells::Cell; impl Cell {} impl super::Grid {}"
        ["shapes"]).events.toOption := by
  decide +kernel

end SourceFile

end CrateMetrics.Rust
