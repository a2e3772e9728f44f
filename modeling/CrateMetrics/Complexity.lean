/-
Cyclomatic complexity: one plus the decisions of each method, averaged over the methods
of a class. Decisions outside of methods do not count, nor do methods outside of classes.
-/

import CrateMetrics.ClassTable
import CrateMetrics.ClassValue
import CrateMetrics.Note
import CrateMetrics.Scalar

namespace CrateMetrics.Complexity

structure Tally where
  classes : ClassTable (List (String × Nat)) := {}
  method : Option (String × Nat) := none

def Tally.step (tally : Tally) : Event → Tally
  | .enterClass name => { tally with classes := tally.classes.enter [] name }
  | .exitClass _ => { tally with classes := tally.classes.exit }
  | .enterMethod name => { tally with method := some (name, 1) }
  | .exitMethod _ =>
      match tally.method with
      | none => tally
      | some method =>
          { classes := tally.classes.modify (fun methods => methods ++ [method])
            method := none }
  | .decision _ =>
      { tally with method := tally.method.map (fun (name, paths) => (name, paths + 1)) }
  | .field _ | .call _ | .access _ => tally

def methodsByClass (events : List Event) : List (String × List (String × Nat)) :=
  (events.foldl Tally.step {}).classes.entries

variable {α : Type} [Scalar α]

def classValues (events : List Event) : List (ClassValue α) :=
  ((methodsByClass events).filter (fun (_, methods) => !methods.isEmpty)).map
    (fun (name, methods) =>
      let total := methods.foldl (fun total (_, paths) => total + paths) 0
      { name
        value := Scalar.ofCount total / Scalar.ofCount methods.length
        count := methods.length
        methods := methods.map (fun (method, paths) => (method, Scalar.ofCount paths)) })

/-- A remark for each decision inside of a method; `method` is the one being walked. -/
def notes (method : Option String) : List Event → List (Note α)
  | [] => []
  | .enterMethod name :: rest => notes (some name) rest
  | .exitMethod _ :: rest => notes none rest
  | .decision kind :: rest =>
      match method with
      | none => notes method rest
      | some name => .decided kind name :: notes method rest
  | _ :: rest => notes method rest

end CrateMetrics.Complexity
