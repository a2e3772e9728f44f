/-
The members of one class, its fields and methods, and which of them each refers to.
Members are identified by their index in order of discovery.
-/

import CrateMetrics.Text.Qualified

namespace CrateMetrics.Cohesion

inductive MemberKind where
  | field
  | method
  deriving DecidableEq, Repr

structure Member where
  name : String
  kind : MemberKind
  references : List Nat := []
  deriving Repr

structure ClassMembers where
  className : String
  members : List Member := []
  deriving Repr

def insertIndex (index : Nat) : List Nat → List Nat
  | [] => [index]
  | head :: rest =>
      if index < head then index :: head :: rest
      else if index = head then head :: rest
      else head :: insertIndex index rest

def unionIndices (left right : List Nat) : List Nat :=
  right.foldl (fun indices index => insertIndex index indices) left

def haveCommon (left right : List Nat) : Bool :=
  left.any right.contains

namespace ClassMembers

def find? (members : ClassMembers) (name : String) (kind : MemberKind) : Option Nat :=
  members.members.findIdx? (fun member => member.kind == kind && member.name == name)

def add (members : ClassMembers) (name : String) (kind : MemberKind) : ClassMembers × Nat :=
  match members.find? name kind with
  | some index => (members, index)
  | none =>
      ({ members with members := members.members ++ [{ name, kind }] },
        members.members.length)

/-- Records that one member refers to another. A member does not refer to itself. -/
def reference (members : ClassMembers) (source target : Nat) : ClassMembers :=
  if source = target then members
  else
    { members with
      members := members.members.modify source (fun member =>
        { member with references := insertIndex target member.references }) }

def references (members : ClassMembers) (index : Nat) : List Nat :=
  match members.members[index]? with
  | none => []
  | some member => member.references

def nameOf (members : ClassMembers) (index : Nat) : String :=
  match members.members[index]? with
  | none => ""
  | some member => member.name

def isMethod (members : ClassMembers) (index : Nat) : Bool :=
  match members.members[index]? with
  | none => false
  | some member => member.kind == .method

def methods (members : ClassMembers) : List Nat :=
  (List.range members.members.length).filter members.isMethod

def methodsNamed (members : ClassMembers) (bare : String) : List Nat :=
  members.methods.filter (fun index => Text.bareName (members.nameOf index) == bare)

end ClassMembers

end CrateMetrics.Cohesion
