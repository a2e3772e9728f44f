/-
LCOM4: into how many connected groups the methods of a class fall. Two methods are related
when one refers to the other or both refer to a common member. Related pairs are taken in
order; each opens a new component, joins the one it touches, or merges all it touches.
-/

import CrateMetrics.Cohesion.Members
import CrateMetrics.Note

namespace CrateMetrics.Cohesion

/-- A set of members known to be connected, as ascending indices. -/
abbrev Component := List Nat

namespace ClassMembers

def related (members : ClassMembers) (left right : Nat) : Bool :=
  (members.references left).contains right ||
    (members.references right).contains left ||
    haveCommon (members.references left) (members.references right)

def pairs : List Nat → List (Nat × Nat)
  | [] => []
  | head :: rest => rest.map (fun later => (head, later)) ++ pairs rest

def relatedPairs (members : ClassMembers) : List (Nat × Nat) :=
  (pairs members.methods).filter (fun (left, right) => members.related left right)

def pairReferences (members : ClassMembers) (pair : Nat × Nat) : List Nat :=
  unionIndices (members.references pair.1) (members.references pair.2)

/-- Whether a pair belongs with a component: a method of it is inside, something it refers
to is inside, or a member inside refers to something it refers to. -/
def touches (members : ClassMembers) (pair : Nat × Nat) (component : Component) : Bool :=
  let shared := members.pairReferences pair
  component.contains pair.1 || component.contains pair.2 ||
    haveCommon shared component ||
    component.any (fun inside => haveCommon (members.references inside) shared)

def absorb (members : ClassMembers) (pair : Nat × Nat) (component : Component) : Component :=
  unionIndices (insertIndex pair.2 (insertIndex pair.1 component))
    (members.pairReferences pair)

def place (members : ClassMembers) (components : List Component) (pair : Nat × Nat) :
    List Component :=
  match components.filter (members.touches pair) with
  | [] => components ++ [members.absorb pair []]
  | [_] =>
      components.map (fun component =>
        if members.touches pair component then members.absorb pair component else component)
  | touched =>
      components.filter (fun component => !members.touches pair component) ++
        [members.absorb pair (touched.foldl unionIndices [])]

def addAlone (components : List Component) (method : Nat) : List Component :=
  if components.any (fun component => component.contains method) then components
  else components ++ [[method]]

def components (members : ClassMembers) : List Component :=
  members.methods.foldl addAlone (members.relatedPairs.foldl members.place [])

/-- How many groups the methods fall into; one for a class with less than two methods. -/
def lcom4 (members : ClassMembers) : Nat :=
  if members.methods.length ≤ 1 then 1 else members.components.length

def sortedNames (members : ClassMembers) (component : Component) : List String :=
  (component.map members.nameOf).mergeSort (fun left right => left ≤ right)

variable {α : Type}

def placeNotes (members : ClassMembers) (components : List Component) (pair : Nat × Nat) :
    List (Note α) :=
  let touched := components.filter (members.touches pair)
  let names := members.sortedNames (members.absorb pair (touched.foldl unionIndices []))
  [.related members.className (members.nameOf pair.1) (members.nameOf pair.2),
    match touched with
    | [] => .componentOpened names
    | [_] => .componentJoined names
    | _ => .componentsMerged touched.length names]

def placingNotes (members : ClassMembers) (components : List Component) :
    List (Nat × Nat) → List (Note α)
  | [] => []
  | pair :: rest =>
      members.placeNotes components pair ++
        placingNotes members (members.place components pair) rest

def componentsNotes (members : ClassMembers) : List (Note α) :=
  members.placingNotes [] members.relatedPairs

def lcom4Notes (members : ClassMembers) : List (Note α) :=
  if members.methods.length ≤ 1 then [] else members.componentsNotes

end ClassMembers

end CrateMetrics.Cohesion
