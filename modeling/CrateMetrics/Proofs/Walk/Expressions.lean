/-
Expressions as lists: an expression and all expressions inside of it, in the order of the walk. What
is walked of an expression are the own events of all these, so what a walk reports can be counted
expression by expression.
-/

import CrateMetrics.Proofs.Walk.Nesting
import CrateMetrics.Proofs.Walk.Placement

namespace CrateMetrics.Rust

/-- The expression and all expressions inside of it. Items are not looked into, and the arguments of
macros in methods only. -/
def Code.expressions (inMethod : Bool) (code : Code) : List Code :=
  code :: (code.parts inMethod).attach.flatMap (fun part => part.val.expressions inMethod)
termination_by sizeOf code
decreasing_by exact Code.sizeOf_lt_of_mem_parts part.property

theorem Code.expressions_eq (inMethod : Bool) (code : Code) :
    code.expressions inMethod =
      code :: (code.parts inMethod).flatMap (Code.expressions inMethod) := by
  have unattached := List.flatMap_map Subtype.val (Code.expressions inMethod)
    (code.parts inMethod).attach
  rw [List.attach_map_subtype_val] at unattached
  rw [Code.expressions, unattached]

/-- The item that the expression is. -/
def Code.item? : Code → Option Item
  | .item nested => some nested
  | _ => none

/-- The walk reports one expression after the other. -/
theorem Code.walk_eq_flatMap (position : Position) (code : Code) :
    code.walk position =
      (code.expressions position.inMethod).flatMap (Code.ownEvents position) := by
  have each (part : Code) (isPart : part ∈ code.parts position.inMethod) :
      part.walk position =
        (part.expressions position.inMethod).flatMap (Code.ownEvents position) :=
    part.walk_eq_flatMap position
  rw [Code.walk_eq, Code.expressions_eq, List.flatMap_cons, List.flatMap_assoc]
  exact congrArg (code.ownEvents position ++ ·) (List.flatMap_congr each)
termination_by sizeOf code
decreasing_by exact Code.sizeOf_lt_of_mem_parts isPart

theorem Code.sizeOf_le_of_mem_expressions {inMethod : Bool} {inner code : Code}
    (inside : inner ∈ code.expressions inMethod) : sizeOf inner ≤ sizeOf code := by
  rw [Code.expressions_eq] at inside
  rcases List.mem_cons.mp inside with rfl | below
  · exact Nat.le_refl _
  · obtain ⟨part, isPart, inPart⟩ := List.mem_flatMap.mp below
    have smaller := Code.sizeOf_lt_of_mem_parts isPart
    have := Code.sizeOf_le_of_mem_expressions inPart
    omega
termination_by sizeOf code

/-- An expression that is no item reports nothing but code. -/
theorem Code.isCode_of_mem_ownEvents {position : Position} {code : Code}
    (plain : code.item? = none) {event : Event} (present : event ∈ code.ownEvents position) :
    event.isCode = true := by
  cases code with
  | item nested => cases plain
  | field _ base name =>
      rw [Code.ownEvents] at present
      split at present
      · rw [List.mem_singleton.mp present]
        rfl
      · cases present
  | call _ callee _ =>
      obtain ⟨_, _, rfl⟩ := List.mem_map.mp present
      rfl
  | methodCall | conditional | whileLoop | forLoop | endlessLoop | propagation =>
      rw [List.mem_singleton.mp present]
      rfl
  | binary symbol _ _ =>
      obtain ⟨_, _, rfl⟩ := List.mem_map.mp present
      rfl
  | select _ arms => exact isCode_of_mem_armDecisions arms event present
  | _ => cases present

/-! ### Code of methods -/

/-- What is reported of code in a method. Whichever module it is in makes no difference. -/
def Code.report (code : Code) : List Event :=
  code.walk { scope := {}, inMethod := true }

theorem Code.walk_inMethod (scope : ModuleScope) (code : Code) :
    code.walk { scope, inMethod := true } = code.report := by
  rw [Code.report, Code.walk_eq_flatMap, Code.walk_eq_flatMap]
  rfl

theorem Code.isCode_of_mem_report {code : Code} {event : Event} (present : event ∈ code.report) :
    event.isCode = true :=
  code.admits_walk { scope := {}, inMethod := true } event present

end CrateMetrics.Rust
