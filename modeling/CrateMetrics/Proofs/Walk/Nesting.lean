/-
Walks are well bracketed. Inside of a method only code is reported, for items nested there are
skipped. Everywhere else items may be found in code as well as in modules, but never while a class
is entered.
-/

import CrateMetrics.Proofs.Walk.Bracketing
import CrateMetrics.Rust.Walk

namespace CrateMetrics.Rust

open Place (Reads)

/-- What may be reported from code at the position. -/
def Position.Admits (position : Position) (events : List Event) : Prop :=
  match position.inMethod with
  | true => ∀ event ∈ events, event.isCode = true
  | false => Reads .outside events .outside

namespace Position

variable (position : Position) {first second : List Event}

theorem admits_code (code : ∀ event ∈ first, event.isCode = true) : position.Admits first := by
  unfold Admits
  cases position.inMethod with
  | true => exact code
  | false => exact .code .outside code

theorem admits_nil : position.Admits [] :=
  position.admits_code (fun _ present => nomatch present)

variable {position}

theorem Admits.append (admitsFirst : position.Admits first) (admitsSecond : position.Admits second) :
    position.Admits (first ++ second) := by
  unfold Admits at *
  cases inMethod : position.inMethod with
  | true =>
      rw [inMethod] at admitsFirst admitsSecond
      exact List.forall_mem_append.mpr ⟨admitsFirst, admitsSecond⟩
  | false =>
      rw [inMethod] at admitsFirst admitsSecond
      exact admitsFirst.append admitsSecond

theorem Admits.cons {event : Event} (isCode : event.isCode = true) (admits : position.Admits first) :
    position.Admits (event :: first) :=
  (position.admits_code (List.forall_mem_singleton.mpr isCode)).append admits

theorem admits_items (reads : Reads .outside first .outside) :
    position.Admits (if position.inMethod then [] else first) := by
  unfold Admits
  cases position.inMethod with
  | true => exact fun _ present => nomatch present
  | false => exact reads

end Position

theorem isCode_of_mem_armDecisions (arms : List Arm) :
    ∀ event ∈ armDecisions arms, event.isCode = true := by
  intro event present
  rcases List.mem_append.mp present with isArm | isGuard
  · obtain ⟨_, _, rfl⟩ := List.mem_map.mp isArm
    rfl
  · obtain ⟨_, _, rfl⟩ := List.mem_map.mp isGuard
    rfl

/-- A class with what belongs into it. -/
theorem reads_class (name : String) {events : List Event}
    (inside : Reads (.type name) events (.type name)) :
    Reads .outside (.enterClass name :: (events ++ [.exitClass name])) .outside :=
  .cons (.enterClass name) (inside.append (.single (.exitClass name)))

theorem reads_fields (className : String) (fields : List String) :
    Reads (.type className) (fields.map .field) (.type className) := by
  induction fields with
  | nil => exact .nil _
  | cons name rest ih => exact .cons (.field className name) ih

/-- A method with its code. -/
theorem reads_method (className name : String) {body : List Event}
    (code : ∀ event ∈ body, event.isCode = true) :
    Reads (.type className) (.enterMethod name :: (body ++ [.exitMethod name])) (.type className) :=
  .cons (.enterMethod className name)
    ((Reads.code _ code).append (.single (.exitMethod className name)))

mutual

theorem Code.admits_walk (position : Position) : (code : Code) →
    position.Admits (code.walk position)
  | .selfValue attributes => by
      rw [Code.walk]
      exact Code.admits_walkAll position attributes
  | .path _ parts => by
      rw [Code.walk]
      exact Code.admits_walkAll position parts
  | .paren attributes inner => by
      rw [Code.walk]
      exact (Code.admits_walkAll position attributes).append (inner.admits_walk position)
  | .reference attributes inner => by
      rw [Code.walk]
      exact (Code.admits_walkAll position attributes).append (inner.admits_walk position)
  | .field attributes base name => by
      rw [Code.walk]
      have below :=
        (Code.admits_walkAll position attributes).append (base.admits_walk position)
      cases base.isSelf with
      | true => exact below.cons rfl
      | false => exact below
  | .call attributes callee arguments => by
      rw [Code.walk]
      have below := (Code.admits_walkAll position attributes).append
        ((callee.admits_walk position).append (Code.admits_walkAll position arguments))
      cases callee.invocation? with
      | none => exact below
      | some _ => exact below.cons rfl
  | .methodCall attributes receiver name arguments => by
      rw [Code.walk]
      exact ((Code.admits_walkAll position attributes).append
        ((receiver.admits_walk position).append (Code.admits_walkAll position arguments))).cons rfl
  | .conditional attributes condition body alternative => by
      rw [Code.walk]
      exact ((Code.admits_walkAll position attributes).append
        ((condition.admits_walk position).append
          ((body.admits_walk position).append
            (Code.admits_walkOption position alternative)))).cons rfl
  | .whileLoop attributes condition body => by
      rw [Code.walk]
      exact ((Code.admits_walkAll position attributes).append
        ((condition.admits_walk position).append (body.admits_walk position))).cons rfl
  | .forLoop attributes pattern elements body => by
      rw [Code.walk]
      exact ((Code.admits_walkAll position attributes).append
        ((Code.admits_walkAll position pattern).append
          ((elements.admits_walk position).append (body.admits_walk position)))).cons rfl
  | .endlessLoop attributes body => by
      rw [Code.walk]
      exact ((Code.admits_walkAll position attributes).append (body.admits_walk position)).cons rfl
  | .binary symbol left right => by
      rw [Code.walk]
      have below := (left.admits_walk position).append (right.admits_walk position)
      cases operatorDecision? symbol with
      | none => exact below
      | some _ => exact below.cons rfl
  | .propagation attributes base => by
      rw [Code.walk]
      exact ((Code.admits_walkAll position attributes).append (base.admits_walk position)).cons rfl
  | .operation left rest => by
      rw [Code.walk]
      exact (left.admits_walk position).append (Code.admits_walkAll position rest)
  | .select parts arms => by
      rw [Code.walk]
      exact (position.admits_code (isCode_of_mem_armDecisions arms)).append
        ((Code.admits_walkAll position parts).append (Arm.admits_walkAll position arms))
  | .macroCall attributes arguments => by
      rw [Code.walk]
      refine (Code.admits_walkAll position attributes).append ?_
      cases position.inMethod with
      | true => exact Code.admits_walkAll position arguments
      | false => exact position.admits_nil
  | .item nested => by
      rw [Code.walk]
      exact Position.admits_items (nested.reads_walk position.scope)
  | .compound parts => by
      rw [Code.walk]
      exact Code.admits_walkAll position parts
  | .skipped => by
      rw [Code.walk]
      exact position.admits_nil

theorem Code.admits_walkAll (position : Position) : (codes : List Code) →
    position.Admits (Code.walkAll position codes)
  | [] => position.admits_nil
  | code :: rest => (code.admits_walk position).append (Code.admits_walkAll position rest)

theorem Arm.admits_walk (position : Position) : (arm : Arm) →
    position.Admits (arm.walk position)
  | .mk attributes pattern guard body => by
      rw [Arm.walk]
      exact (Code.admits_walkAll position attributes).append
        ((Code.admits_walkAll position pattern).append
          ((Code.admits_walkOption position guard).append (body.admits_walk position)))

theorem Code.admits_walkOption (position : Position) : (code : Option Code) →
    position.Admits (Code.walkOption position code)
  | none => position.admits_nil
  | some code => code.admits_walk position

theorem Arm.admits_walkAll (position : Position) : (arms : List Arm) →
    position.Admits (Arm.walkAll position arms)
  | [] => position.admits_nil
  | arm :: rest => (arm.admits_walk position).append (Arm.admits_walkAll position rest)

theorem Attribute.admits_walk (position : Position) : (attr : Attribute) →
    position.Admits (attr.walk position)
  | .mk _ _ form => form.admits_walk position

theorem AttributeForm.admits_walk (position : Position) : (form : AttributeForm) →
    position.Admits (form.walk position)
  | .bare => position.admits_nil
  | .list _ => position.admits_nil
  | .assigned value => value.admits_walk position

theorem Attribute.admits_walkAll (position : Position) : (attributes : List Attribute) →
    position.Admits (Attribute.walkAll position attributes)
  | [] => position.admits_nil
  | attr :: rest => (attr.admits_walk position).append (Attribute.admits_walkAll position rest)

theorem Method.reads_walk (scope : ModuleScope) (traitName : Option String)
    (className : String) : (method : Method) →
    Reads (.type className) (method.walk scope traitName) (.type className)
  | .mk _ name body => by
      rw [Method.walk]
      exact reads_method className _ (body.admits_walk { scope, inMethod := true })

theorem Method.reads_walkImplemented (scope : ModuleScope) (traitName : Option String)
    (className : String) : (methods : List Method) →
    Reads (.type className) (Method.walkImplemented scope traitName methods) (.type className)
  | [] => .nil _
  | method :: rest => by
      have later := Method.reads_walkImplemented scope traitName className rest
      rw [Method.walkImplemented]
      cases isTestCode method.attributes with
      | true => exact later
      | false => exact (method.reads_walk scope traitName className).append later

theorem Method.reads_walkDeclared (scope : ModuleScope) (className : String) :
    (methods : List Method) →
    Reads (.type className) (Method.walkDeclared scope methods) (.type className)
  | [] => .nil _
  | method :: rest =>
      (method.reads_walk scope none className).append
        (Method.reads_walkDeclared scope className rest)

theorem Item.reads_walk (scope : ModuleScope) : (item : Item) →
    Reads .outside (item.walk scope) .outside
  | .typeDeclaration attributes name fields => by
      rw [Item.walk]
      cases isTestCode attributes with
      | true => exact .nil _
      | false => exact reads_class _ (reads_fields _ fields)
  | .implementation attributes owner traitName methods => by
      cases owner with
      | none => exact .nil _
      | some segments =>
          rw [Item.walk]
          cases isTestCode attributes with
          | true => exact .nil _
          | false => exact reads_class _ (Method.reads_walkImplemented scope traitName _ methods)
  | .traitDeclaration attributes name methods => by
      rw [Item.walk]
      cases isTestCode attributes with
      | true => exact .nil _
      | false => exact reads_class _ (Method.reads_walkDeclared scope _ methods)
  | .inlineModule attributes name items => by
      rw [Item.walk]
      cases isTestCode attributes with
      | true => exact .nil _
      | false => exact Item.reads_walkModule (scope.path ++ [name]) items
  | .use attributes _ => by
      rw [Item.walk]
      exact Attribute.admits_walkAll { scope } attributes
  | .declaration attributes parts => by
      rw [Item.walk]
      exact (Attribute.admits_walkAll { scope } attributes).append
        (Code.admits_walkAll { scope } parts)
  | .function _ => .nil _
  | .skipped => .nil _

theorem Item.reads_walkModule (path : List String) : (items : Option (List Item)) →
    Reads .outside (Item.walkModule path items) .outside
  | none => .nil _
  | some items => Item.reads_walkAll (.ofItems path items) items

theorem Item.reads_walkAll (scope : ModuleScope) : (items : List Item) →
    Reads .outside (Item.walkAll scope items) .outside
  | [] => .nil _
  | item :: rest => (item.reads_walk scope).append (Item.reads_walkAll scope rest)

end

namespace SourceFile

theorem reads_walk (file : SourceFile) (module : List String) :
    Reads .outside (file.walk module) .outside := by
  unfold walk
  cases isTestCode file.attributes with
  | true => exact .nil _
  | false =>
      let scope := ModuleScope.ofItems module file.items
      exact (Attribute.admits_walkAll { scope } file.attributes).append
        (Item.reads_walkAll scope file.items)

/-- Whatever the syntax tree and its module, every walk is well bracketed. -/
theorem walk_wellBracketed (file : SourceFile) (module : List String) :
    WellBracketed (file.walk module) :=
  .of_reads (file.reads_walk module)

end SourceFile

end CrateMetrics.Rust
