/-
Response for class: how many different methods can run in answer to a message to a class,
its own methods and those they call. Calls are told apart by their signature, so a method
that a class both has and calls on itself counts once.
-/

import CrateMetrics.ClassTable
import CrateMetrics.ClassValue
import CrateMetrics.Event
import CrateMetrics.Scalar

namespace CrateMetrics.Response

structure ResponseSet where
  methods : Nat := 0
  signatures : List String := []

def ResponseSet.insert (signature : String) (set : ResponseSet) : ResponseSet :=
  if set.signatures.contains signature then set
  else { set with signatures := set.signatures ++ [signature] }

def ResponseSet.addMethod (name : String) (set : ResponseSet) : ResponseSet :=
  { set with methods := set.methods + 1 }.insert
    (Invocation.signature ⟨.ownType, Text.bareName name⟩)

structure Tally where
  classes : ClassTable ResponseSet := {}
  inMethod : Bool := false

def Tally.step (tally : Tally) : Event → Tally
  | .enterClass name => { tally with classes := tally.classes.enter {} name }
  | .exitClass _ => { tally with classes := tally.classes.exit }
  | .enterMethod name =>
      { classes := tally.classes.modify (ResponseSet.addMethod name), inMethod := true }
  | .exitMethod _ => { tally with inMethod := false }
  | .call invocation =>
      if tally.inMethod then
        { tally with classes := tally.classes.modify (ResponseSet.insert invocation.signature) }
      else tally
  | .field _ | .decision _ | .access _ => tally

def classValues {α : Type} [Scalar α] (events : List Event) : List (ClassValue α) :=
  let entries := (events.foldl Tally.step {}).classes.entries
  (entries.filter (fun (_, set) => 0 < set.methods)).map
    (fun (name, set) =>
      { name, value := Scalar.ofCount set.signatures.length, count := 1 })

end CrateMetrics.Response
