/-
Syntax trees of Rust files, as far as a measurement can see them. Calls, field accesses,
conditions, loops, binary operators, `?`, `match`, macros and nested items are kept for what
they are; of any other expression only the expressions inside are kept, in source order.
Types and patterns are represented by the expressions inside of them alone.

The values of attributes such as `#[path = expr]` are expressions of their own and come
first among the parts of what they are attached to.
-/

import CrateMetrics.Rust.Token

namespace CrateMetrics.Rust

inductive UseTree where
  /-- `name::rest` -/
  | path (name : String) (rest : UseTree)
  | name (name : String)
  /-- `name as bound` -/
  | rename (name bound : String)
  | glob
  | group (trees : List UseTree)
  deriving Repr

mutual

inductive Code where
  /-- The path `self`. -/
  | selfValue (attributes : List Code)
  /-- Any other path; `parts` are the expressions in its generic arguments. -/
  | path (names : List String) (parts : List Code)
  | paren (attributes : List Code) (inner : Code)
  /-- `&inner`, `&mut inner` -/
  | reference (attributes : List Code) (inner : Code)
  /-- `base.name` -/
  | field (attributes : List Code) (base : Code) (name : String)
  | call (attributes : List Code) (callee : Code) (arguments : List Code)
  /-- `receiver.name::<..>(..)`; the generic arguments come before the others. -/
  | methodCall (attributes : List Code) (receiver : Code) (name : String)
      (arguments : List Code)
  /-- `if` with its block; what comes after `else` is a block or an `if` again. -/
  | conditional (attributes : List Code) (condition body : Code) (alternative : Option Code)
  | whileLoop (attributes : List Code) (condition body : Code)
  /-- `for`, with the expressions in its pattern. -/
  | forLoop (attributes pattern : List Code) (elements body : Code)
  /-- `loop` -/
  | endlessLoop (attributes : List Code) (body : Code)
  /-- `left symbol right`, also where the operator assigns. -/
  | binary (symbol : String) (left right : Code)
  /-- `base?` -/
  | propagation (attributes : List Code) (base : Code)
  /-- An assignment or a cast. -/
  | operation (left : Code) (rest : List Code)
  /-- `match`, with its attributes and scrutinee as parts. -/
  | select (parts : List Code) (arms : List Arm)
  /-- A macro call; `arguments` are the expressions that its body reads as. There are none if
  the body reads as anything else. -/
  | macroCall (attributes arguments : List Code)
  | item (item : Item)
  | compound (parts : List Code)
  /-- An expression that is accepted but not looked into, nor its attributes. -/
  | skipped

inductive Arm where
  | mk (attributes pattern : List Code) (guard : Option Code) (body : Code)

inductive AttributeForm where
  | bare
  /-- `path(..)` -/
  | list (tokens : List Token)
  /-- `path = value` -/
  | assigned (value : Code)

/-- An attribute, outer or inner. `rooted` tells that its path starts with colons. -/
inductive Attribute where
  | mk (rooted : Bool) (path : List String) (form : AttributeForm)

inductive Method where
  | mk (attributes : List Attribute) (name : String) (body : Code)

inductive Item where
  /-- A struct, enum or union with the names of its fields. Positions name the fields of a
  tuple struct, and enums have none. -/
  | typeDeclaration (attributes : List Attribute) (name : String) (fields : List String)
  /-- An `impl` block. `owner` is absent if the type is not a plain path; `traitName` is
  the last name of the trait that is implemented. -/
  | implementation (attributes : List Attribute) (owner : Option (List String))
      (traitName : Option String) (methods : List Method)
  /-- A trait with those of its methods that have a body. -/
  | traitDeclaration (attributes : List Attribute) (name : String) (methods : List Method)
  /-- A module; one in a file of its own has no items. -/
  | inlineModule (attributes : List Attribute) (name : String) (items : Option (List Item))
  | use (attributes : List Attribute) (tree : UseTree)
  | function (attributes : List Attribute)
  /-- Constants, statics, type aliases, foreign blocks, item macros and the like, with the
  expressions inside of them. -/
  | declaration (attributes : List Attribute) (parts : List Code)
  /-- An item that is accepted but not looked into. -/
  | skipped

end

structure SourceFile where
  attributes : List Attribute
  items : List Item

namespace Attribute

def rooted : Attribute → Bool
  | .mk rooted _ _ => rooted

def path : Attribute → List String
  | .mk _ path _ => path

def form : Attribute → AttributeForm
  | .mk _ _ form => form

def isNamed (attr : Attribute) (name : String) : Bool :=
  !attr.rooted && attr.path == [name]

def values (attributes : List Attribute) : List Code :=
  attributes.filterMap (fun attr =>
    match attr.form with
    | .assigned value => some value
    | .bare | .list _ => none)

end Attribute

namespace Method

def attributes : Method → List Attribute
  | .mk attributes _ _ => attributes

def name : Method → String
  | .mk _ name _ => name

def body : Method → Code
  | .mk _ _ body => body

end Method

def Item.attributes : Item → List Attribute
  | .typeDeclaration attributes _ _ => attributes
  | .implementation attributes _ _ _ => attributes
  | .traitDeclaration attributes _ _ => attributes
  | .inlineModule attributes _ _ => attributes
  | .use attributes _ => attributes
  | .function attributes => attributes
  | .declaration attributes _ => attributes
  | .skipped => []

/-- Adds attributes to an expression. Those before an operation belong to its leftmost
operand. -/
def Code.withAttributes (values : List Code) : Code → Code
  | .selfValue attributes => .selfValue (values ++ attributes)
  | .path names parts => .path names (values ++ parts)
  | .paren attributes inner => .paren (values ++ attributes) inner
  | .reference attributes inner => .reference (values ++ attributes) inner
  | .field attributes base name => .field (values ++ attributes) base name
  | .call attributes callee arguments => .call (values ++ attributes) callee arguments
  | .methodCall attributes receiver name arguments =>
      .methodCall (values ++ attributes) receiver name arguments
  | .conditional attributes condition body alternative =>
      .conditional (values ++ attributes) condition body alternative
  | .whileLoop attributes condition body => .whileLoop (values ++ attributes) condition body
  | .forLoop attributes pattern elements body =>
      .forLoop (values ++ attributes) pattern elements body
  | .endlessLoop attributes body => .endlessLoop (values ++ attributes) body
  | .binary symbol left right => .binary symbol (left.withAttributes values) right
  | .propagation attributes base => .propagation (values ++ attributes) base
  | .operation left rest => .operation (left.withAttributes values) rest
  | .select parts arms => .select (values ++ parts) arms
  | .macroCall attributes arguments => .macroCall (values ++ attributes) arguments
  | .item nested => .item nested
  | .compound parts => .compound (values ++ parts)
  | .skipped => .skipped

end CrateMetrics.Rust
