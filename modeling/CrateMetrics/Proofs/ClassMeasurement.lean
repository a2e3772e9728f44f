/-
The measurement of a class. It is built by edits of a new node, of which none is refused, so events
are always measured: each class with its value, and with the first method of each name.
-/

import CrateMetrics.Meter
import CrateMetrics.Proofs.Editing
import CrateMetrics.Proofs.Running

namespace CrateMetrics

open Edit

variable {α : Type}

namespace Measurement

/-- The children together with another one, unless one of them has its identity. -/
def addNew (children : List (Measurement α)) (child : Measurement α) : List (Measurement α) :=
  if children.any (isNamed child.scope child.name) then children else children ++ [child]

/-- A child of the right scope is never refused. -/
theorem takes_addChild (tree child : Measurement α) (finer : tree.scope.finer = some child.scope) :
    ∃ held, Takes (addChild child) tree held
      { tree with children := addNew tree.children child } := by
  have same : tree.children.any (isNamed child.scope child.name) =
      (tree.child? child.scope child.name).isSome := List.isSome_find?.symm
  unfold addNew
  rw [same]
  cases found : tree.child? child.scope child.name with
  | none => exact ⟨child, takes_addChild_absent finer found⟩
  | some known =>
      refine ⟨known, ?_⟩
      obtain ⟨_, _, _, _⟩ := tree
      exact takes_addChild_known finer found

end Measurement

namespace Meter

variable [Scalar α] (meter : Meter α)

def methodMeasurement (name : String) (value : α) : Measurement α :=
  { scope := .method, name, values := [meter.finalValue value 1] }

/-- The measurement of a class. Of two methods with one name the first is kept. -/
def classMeasurement (measured : ClassValue α) : Measurement α :=
  { scope := .type
    name := measured.name
    values := [meter.finalValue measured.value measured.count]
    children := measured.methods.foldl
      (fun children method =>
        Measurement.addNew children (meter.methodMeasurement method.1 method.2))
      [] }

/-- The measurements of the classes in the events. -/
def classes (events : List Event) : List (Measurement α) :=
  (meter.kind.classValues events).map meter.classMeasurement

theorem measureClass_eq (measured : ClassValue α) :
    meter.measureClass measured = .ok (meter.classMeasurement measured) := by
  let record (method : String × α) : Edit (Measurement α) Unit := do
    let method ← meter.measureMethod method.1 method.2
    let _ ← Measurement.addChild method
  let values := [meter.finalValue measured.value measured.count]
  have records (methods : List (String × α)) (children : List (Measurement α)) :
      Takes (methods.forM record) ⟨.type, measured.name, values, children⟩ ()
        ⟨.type, measured.name, values, methods.foldl (fun children method =>
          Measurement.addNew children (meter.methodMeasurement method.1 method.2)) children⟩ := by
    induction methods generalizing children with
    | nil => exact takes_pure () _
    | cons head rest ih =>
        obtain ⟨held, adds⟩ := Measurement.takes_addChild ⟨.type, measured.name, values, children⟩
          (meter.methodMeasurement head.1 head.2) rfl
        have first : Takes (record head) _ () _ := adds.bind (takes_pure () _)
        exact first.bind (ih _)
  have inserted : Takes (Measurement.insertValue (meter.finalValue measured.value measured.count))
      (.new .type measured.name) () ⟨.type, measured.name, values, []⟩ := rfl
  exact Measurement.edit_eq (inserted.bind (records measured.methods []))

/-- Measuring never fails. -/
theorem measure_eq (events : List Event) : meter.measure events = .ok (meter.classes events) :=
  mapM_eq_ok_map (fun measured _ => meter.measureClass_eq measured)

end Meter

end CrateMetrics
