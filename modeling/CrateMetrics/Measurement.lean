/-
Trees of measurements. A measurement holds at most one value per metric and its parts as
children, which lie one scope below it and are told apart by scope and name.

Changes of a measurement are edits: an edit that fails keeps what it did before it failed.
-/

import CrateMetrics.Fault
import CrateMetrics.Scalar

namespace CrateMetrics

/-- The value of one metric for one measurement. A pending value still collects the
contributions of its parts; a final one is reported. -/
structure MetricValue (α : Type) where
  name : String
  value : α
  /-- How many elements the value covers. -/
  count : Nat
  violated : Bool
  pending : Bool
  deriving Repr

structure Measurement (α : Type) where
  scope : Scope
  name : String
  values : List (MetricValue α) := []
  children : List (Measurement α) := []
  deriving Repr

/-- A change of a value of type `σ` that may fail half way. -/
abbrev Edit (σ β : Type) := ExceptT Fault (StateM σ) β

variable {α : Type}

namespace MetricValue

def empty [Scalar α] (name : String) : MetricValue α :=
  { name, value := Scalar.ofCount 0, count := 0, violated := false, pending := true }

def final (name : String) (value : α) (count : Nat) (violated : Bool) : MetricValue α :=
  { name, value, count, violated, pending := false }

end MetricValue

namespace Measurement

def new (scope : Scope) (name : String) : Measurement α :=
  { scope, name }

def value? (measurement : Measurement α) (metric : String) : Option (MetricValue α) :=
  measurement.values.find? (fun value => value.name == metric)

def isNamed (scope : Scope) (name : String) (child : Measurement α) : Bool :=
  child.scope == scope && child.name == name

def child? (measurement : Measurement α) (scope : Scope) (name : String) :
    Option (Measurement α) :=
  measurement.children.find? (isNamed scope name)

mutual

def anyViolated : Measurement α → Bool
  | ⟨_, _, values, children⟩ => values.any (·.violated) || anyViolatedIn children

def anyViolatedIn : List (Measurement α) → Bool
  | [] => false
  | child :: rest => anyViolated child || anyViolatedIn rest

end

/-- Replaces the first element that satisfies `here`. -/
def replaceFirst {β : Type} (here : β → Bool) (new : β) : List β → List β
  | [] => []
  | head :: rest => if here head then new :: rest else head :: replaceFirst here new rest

/-- The measurement after an edit. A failed edit leaves none. -/
def edit {β : Type} (measurement : Measurement α) (edit : Edit (Measurement α) β) :
    Except Fault (Measurement α) :=
  match edit.run.run measurement with
  | (.ok _, changed) => .ok changed
  | (.error fault, _) => .error fault

def insertValue (value : MetricValue α) : Edit (Measurement α) Unit := do
  let measurement ← get
  if (measurement.value? value.name).isSome then
    throw (.invariant (.duplicateValue measurement.scope measurement.name value.name))
  set { measurement with values := measurement.values ++ [value] }

/-- Runs an edit on the value of the named metric; nothing happens if there is none. -/
def editValue {β : Type} (metric : String) (edit : Edit (MetricValue α) β) :
    Edit (Measurement α) (Option β) := do
  let measurement ← get
  match measurement.value? metric with
  | none => return none
  | some value =>
      let (result, changed) := edit.run.run value
      set { measurement with
        values := replaceFirst (fun value => value.name == metric) changed measurement.values }
      match result with
      | .ok result => return some result
      | .error fault => throw fault

/-- Adds a child unless there is one with its identity, and gives the child that now has
this identity. A child lies exactly one scope below its parent. -/
def addChild (child : Measurement α) : Edit (Measurement α) (Measurement α) := do
  let measurement ← get
  if measurement.scope.finer != some child.scope then
    throw (.invariant
      (.misplacedChild child.scope child.name measurement.scope measurement.name))
  match measurement.child? child.scope child.name with
  | some known => return known
  | none =>
      set { measurement with children := measurement.children ++ [child] }
      return child

/-- Runs an edit on the child with the given identity; nothing happens if there is none. -/
def editChild (scope : Scope) (name : String) (edit : Edit (Measurement α) Unit) :
    Edit (Measurement α) Unit := do
  let measurement ← get
  match measurement.child? scope name with
  | none => return ()
  | some child =>
      let (result, changed) := edit.run.run child
      set { measurement with
        children := replaceFirst (isNamed scope name) changed measurement.children }
      match result with
      | .ok () => return ()
      | .error fault => throw fault

end Measurement

end CrateMetrics
