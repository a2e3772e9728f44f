/-
The walk over a source file. It reports classes for type and trait declarations and for
`impl` blocks, their fields and methods, and what happens in expressions. An expression is
reported before its attributes and parts, and these in source order.

Functions outside of `impl` blocks and traits are not entered, nor are test code and items
nested in methods. Constants and the like are walked where they stand, outside of classes.
-/

import CrateMetrics.Event
import CrateMetrics.Rust.Resolution
import CrateMetrics.Rust.TestCode

namespace CrateMetrics.Rust

/-- Whether an expression is `self`, possibly in parentheses or borrowed. -/
def Code.isSelf : Code → Bool
  | .selfValue _ => true
  | .paren _ inner => inner.isSelf
  | .reference _ inner => inner.isSelf
  | _ => false

def Code.pathNames? : Code → Option (List String)
  | .selfValue _ => some ["self"]
  | .path names _ => some names
  | _ => none

/-- The call that a called expression makes. Names in upper case construct values and are
not called. -/
def Code.invocation? (callee : Code) : Option Invocation := do
  let names ← callee.pathNames?
  let name ← names.getLast?
  if Text.startsUppercase name then none
  else
    let owner := names.dropLast
    let receiver := if owner = ["Self"] then Receiver.ownType else .path (Text.qualify owner)
    return { receiver, name }

structure Position where
  scope : ModuleScope
  inMethod : Bool := false

def methodName (traitName : Option String) (name : String) : String :=
  match traitName with
  | none => name
  | some traitName => Text.qualify [traitName, name]

/-- The decisions of a `match`: each arm after the first, then each guard. -/
def armDecisions (arms : List Arm) : List Event :=
  let guarded := arms.filter (fun ⟨_, _, guard, _⟩ => guard.isSome)
  (arms.drop 1).map (fun _ => .decision .matchArm) ++ guarded.map (fun _ => .decision .guard)

/-- The decision that is made by a binary operator. -/
def operatorDecision? (symbol : String) : Option Decision :=
  if symbol = "&&" then some .logicalAnd
  else if symbol = "||" then some .logicalOr
  else none

mutual

def Code.walk (position : Position) : Code → List Event
  | .selfValue attributes => Code.walkAll position attributes
  | .path _ parts => Code.walkAll position parts
  | .paren attributes inner => Code.walkAll position attributes ++ inner.walk position
  | .reference attributes inner => Code.walkAll position attributes ++ inner.walk position
  | .field attributes base name =>
      (if base.isSelf then [.access name] else []) ++
        (Code.walkAll position attributes ++ base.walk position)
  | .call attributes callee arguments =>
      callee.invocation?.toList.map .call ++
        (Code.walkAll position attributes ++
          (callee.walk position ++ Code.walkAll position arguments))
  | .methodCall attributes receiver name arguments =>
      .call ⟨if receiver.isSelf then .ownType else .value, name⟩ ::
        (Code.walkAll position attributes ++
          (receiver.walk position ++ Code.walkAll position arguments))
  | .conditional attributes condition body alternative =>
      .decision .branchIf ::
        (Code.walkAll position attributes ++
          (condition.walk position ++
            (body.walk position ++ Code.walkOption position alternative)))
  | .whileLoop attributes condition body =>
      .decision .branchWhile ::
        (Code.walkAll position attributes ++ (condition.walk position ++ body.walk position))
  | .forLoop attributes pattern elements body =>
      .decision .branchFor ::
        (Code.walkAll position attributes ++
          (Code.walkAll position pattern ++ (elements.walk position ++ body.walk position)))
  | .endlessLoop attributes body =>
      .decision .branchLoop :: (Code.walkAll position attributes ++ body.walk position)
  | .binary symbol left right =>
      (operatorDecision? symbol).toList.map .decision ++
        (left.walk position ++ right.walk position)
  | .propagation attributes base =>
      .decision .propagate :: (Code.walkAll position attributes ++ base.walk position)
  | .operation left rest => left.walk position ++ Code.walkAll position rest
  | .select parts arms =>
      armDecisions arms ++ (Code.walkAll position parts ++ Arm.walkAll position arms)
  | .macroCall attributes arguments =>
      Code.walkAll position attributes ++
        (if position.inMethod then Code.walkAll position arguments else [])
  | .item nested => if position.inMethod then [] else nested.walk position.scope
  | .compound parts => Code.walkAll position parts
  | .skipped => []

def Code.walkAll (position : Position) : List Code → List Event
  | [] => []
  | code :: rest => code.walk position ++ Code.walkAll position rest

def Arm.walk (position : Position) : Arm → List Event
  | .mk attributes pattern guard body =>
      Code.walkAll position attributes ++
        (Code.walkAll position pattern ++ (Code.walkOption position guard ++ body.walk position))

def Code.walkOption (position : Position) : Option Code → List Event
  | none => []
  | some code => code.walk position

def Arm.walkAll (position : Position) : List Arm → List Event
  | [] => []
  | arm :: rest => arm.walk position ++ Arm.walkAll position rest

def Attribute.walk (position : Position) : Attribute → List Event
  | .mk _ _ form => form.walk position

def AttributeForm.walk (position : Position) : AttributeForm → List Event
  | .bare | .list _ => []
  | .assigned value => value.walk position

def Attribute.walkAll (position : Position) : List Attribute → List Event
  | [] => []
  | attr :: rest => attr.walk position ++ Attribute.walkAll position rest

def Method.walk (scope : ModuleScope) (traitName : Option String) : Method → List Event
  | .mk _ name body =>
      .enterMethod (methodName traitName name) ::
        (body.walk { scope, inMethod := true } ++ [.exitMethod (methodName traitName name)])

def Method.walkImplemented (scope : ModuleScope) (traitName : Option String) :
    List Method → List Event
  | [] => []
  | method :: rest =>
      (if isTestCode method.attributes then [] else method.walk scope traitName) ++
        Method.walkImplemented scope traitName rest

/-- Walks the methods of a trait, whatever their attributes. -/
def Method.walkDeclared (scope : ModuleScope) : List Method → List Event
  | [] => []
  | method :: rest => method.walk scope none ++ Method.walkDeclared scope rest

def Item.walk (scope : ModuleScope) : Item → List Event
  | .typeDeclaration attributes name fields =>
      if isTestCode attributes then []
      else
        .enterClass (scope.declaredName name) ::
          (fields.map .field ++ [.exitClass (scope.declaredName name)])
  | .implementation attributes owner traitName methods =>
      match owner with
      | none => []
      | some segments =>
          if isTestCode attributes then []
          else
            .enterClass (scope.className segments) ::
              (Method.walkImplemented scope traitName methods ++
                [.exitClass (scope.className segments)])
  | .traitDeclaration attributes name methods =>
      if isTestCode attributes then []
      else
        .enterClass (scope.declaredName name) ::
          (Method.walkDeclared scope methods ++ [.exitClass (scope.declaredName name)])
  | .inlineModule attributes name items =>
      if isTestCode attributes then [] else Item.walkModule (scope.path ++ [name]) items
  | .use attributes _ => Attribute.walkAll { scope } attributes
  | .declaration attributes parts =>
      Attribute.walkAll { scope } attributes ++ Code.walkAll { scope } parts
  | .function _ | .skipped => []

/-- Walks a module with the given path, which may be in a file of its own. -/
def Item.walkModule (path : List String) : Option (List Item) → List Event
  | none => []
  | some items => Item.walkAll (.ofItems path items) items

def Item.walkAll (scope : ModuleScope) : List Item → List Event
  | [] => []
  | item :: rest => item.walk scope ++ Item.walkAll scope rest

end

/-- The events of a file that defines the module. A file of test code has none. -/
def SourceFile.walk (file : SourceFile) (module : List String) : List Event :=
  if isTestCode file.attributes then []
  else
    let scope := ModuleScope.ofItems module file.items
    Attribute.walkAll { scope } file.attributes ++ Item.walkAll scope file.items

end CrateMetrics.Rust
