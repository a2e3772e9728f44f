/-
How the methods of each class use its members, collected from the events of a walk, and
the members and references that follow from it. Fields that are used but declared
elsewhere become members; calls of methods the class does not have are dropped.
-/

import CrateMetrics.ClassTable
import CrateMetrics.ClassValue
import CrateMetrics.Cohesion.Components
import CrateMetrics.Scalar

namespace CrateMetrics.Cohesion

structure MethodUsage where
  name : String
  fields : List String := []
  calls : List String := []

structure ClassUsage where
  fields : List String := []
  methods : List MethodUsage := []

namespace ClassUsage

def addField (name : String) (usage : ClassUsage) : ClassUsage :=
  if usage.fields.contains name then usage
  else { usage with fields := usage.fields ++ [name] }

def addMethod (name : String) (usage : ClassUsage) : ClassUsage :=
  { usage with methods := usage.methods ++ [{ name }] }

def modifyLast (change : MethodUsage → MethodUsage) (usage : ClassUsage) : ClassUsage :=
  { usage with methods := usage.methods.modify (usage.methods.length - 1) change }

def addFields (fields : List String) (members : ClassMembers) : ClassMembers :=
  fields.foldl (fun members field => (members.add field .field).1) members

def addMethods : List MethodUsage → ClassMembers → ClassMembers × List Nat
  | [], members => (members, [])
  | method :: rest, members =>
      let (added, index) := members.add method.name .method
      let (all, indices) := addMethods rest added
      (all, index :: indices)

def addReferences (members : ClassMembers) (method : MethodUsage) (index : Nat) :
    ClassMembers :=
  let withFields := method.fields.foldl
    (fun members field =>
      match members.find? field .field with
      | some target => members.reference index target
      | none => members) members
  method.calls.foldl
    (fun members call =>
      (members.methodsNamed call).foldl (fun members target => members.reference index target)
        members) withFields

def toMembers (usage : ClassUsage) (className : String) : ClassMembers :=
  let declared := addFields usage.fields { className }
  let used := addFields (usage.methods.flatMap (·.fields)) declared
  let (members, indices) := addMethods usage.methods used
  (usage.methods.zip indices).foldl
    (fun members (method, index) => addReferences members method index) members

end ClassUsage

structure Tally where
  classes : ClassTable ClassUsage := {}
  inMethod : Bool := false

def Tally.modifyMethod (change : MethodUsage → MethodUsage) (tally : Tally) : Tally :=
  if tally.inMethod then
    { tally with classes := tally.classes.modify (ClassUsage.modifyLast change) }
  else tally

def Tally.step (tally : Tally) : Event → Tally
  | .enterClass name => { tally with classes := tally.classes.enter {} name }
  | .exitClass _ => { tally with classes := tally.classes.exit }
  | .field name => { tally with classes := tally.classes.modify (ClassUsage.addField name) }
  | .enterMethod name =>
      match tally.classes.current with
      | none => tally
      | some _ =>
          { classes := tally.classes.modify (ClassUsage.addMethod name), inMethod := true }
  | .exitMethod _ => { tally with inMethod := false }
  | .call invocation =>
      match invocation.receiver with
      | .ownType =>
          tally.modifyMethod (fun method =>
            { method with calls := method.calls ++ [invocation.name] })
      | _ => tally
  | .access name =>
      tally.modifyMethod (fun method => { method with fields := method.fields ++ [name] })
  | .decision _ => tally

/-- The members of every class, in order of discovery. -/
def membersByClass (events : List Event) : List ClassMembers :=
  (events.foldl Tally.step {}).classes.entries.map (fun (name, usage) => usage.toMembers name)

variable {α : Type} [Scalar α]

def classValues (events : List Event) : List (ClassValue α) :=
  (membersByClass events).map (fun members =>
    { name := members.className, value := Scalar.ofCount members.lcom4, count := 1 })

def notes (events : List Event) : List (Note α) :=
  (membersByClass events).flatMap ClassMembers.lcom4Notes

end CrateMetrics.Cohesion
