/-
Names of types. A path is resolved against the module it is written in, first by the
`use` items of that module, else by the rules for the leading words `crate`, `self` and
`super`. The result is a path from the root of the crate.
-/

import CrateMetrics.Rust.Tree
import CrateMetrics.Text.Qualified

namespace CrateMetrics.Rust

mutual

def UseTree.bindings (above : List String) : UseTree → List (String × List String)
  | .path segment rest => rest.bindings (above ++ [segment])
  | .name leaf =>
      if leaf = "self" then
        match above.getLast? with
        | none => []
        | some last => [(last, above)]
      else [(leaf, above ++ [leaf])]
  | .rename leaf bound => [(bound, above ++ [leaf])]
  | .glob => []
  | .group trees => UseTree.bindingsOfAll above trees

def UseTree.bindingsOfAll (above : List String) : List UseTree → List (String × List String)
  | [] => []
  | tree :: rest => tree.bindings above ++ UseTree.bindingsOfAll above rest

end

/-- Drops the leading `super` segments of a path, and a segment of the module for each. -/
def ascend (module : List String) : List String → List String
  | "super" :: rest => ascend module.dropLast rest
  | segments => module ++ segments

def resolveFrom (module segments : List String) : List String :=
  match segments with
  | "crate" :: rest => rest
  | "self" :: rest => module ++ rest
  | _ => ascend module segments

theorem ascend_nil (module : List String) : ascend module [] = module :=
  List.append_nil module

theorem ascend_cons {module : List String} {head : String} (stays : head ≠ "super")
    (rest : List String) : ascend module (head :: rest) = module ++ head :: rest := by
  rw [ascend]
  rintro later same
  cases same
  exact stays rfl

theorem resolveFrom_cons {module : List String} {head : String} (notCrate : head ≠ "crate")
    (notSelf : head ≠ "self") (rest : List String) :
    resolveFrom module (head :: rest) = ascend module (head :: rest) := by
  unfold resolveFrom
  split
  · rename_i same
    exact absurd (List.head_eq_of_cons_eq same) notCrate
  · rename_i same
    exact absurd (List.head_eq_of_cons_eq same) notSelf
  · rfl

structure ModuleScope where
  path : List String := []
  uses : List (String × List String) := []
  deriving Repr

namespace ModuleScope

def useBindings (items : List Item) : List (String × List String) :=
  items.flatMap (fun
    | .use _ tree => tree.bindings []
    | _ => [])

def ofItems (path : List String) (items : List Item) : ModuleScope :=
  { path, uses := (useBindings items).map (fun (name, target) => (name, resolveFrom path target)) }

/-- What an imported name stands for; the last import of a name counts. -/
def imported? (scope : ModuleScope) (name : String) : Option (List String) :=
  (scope.uses.reverse.find? (fun binding => binding.1 == name)).map (·.2)

def resolve (scope : ModuleScope) (segments : List String) : List String :=
  match segments with
  | [] => scope.path
  | first :: rest =>
      match scope.imported? first with
      | some target => target ++ rest
      | none => resolveFrom scope.path segments

def className (scope : ModuleScope) (segments : List String) : String :=
  Text.qualify (scope.resolve segments)

def declaredName (scope : ModuleScope) (name : String) : String :=
  Text.qualify (scope.path ++ [name])

end ModuleScope

end CrateMetrics.Rust
