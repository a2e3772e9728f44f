/-
Where items are found. An item lies in a module, or in a block of one of its declarations, or in a
module inside. The walk over the file then holds the events of the item, one after the other, under
the scope of the module that the item lies in.
-/

import CrateMetrics.Rust.Walk
import Mathlib.Data.List.Basic

namespace CrateMetrics.Rust

/-! ### Walks and parts -/

theorem Code.walkAll_eq_flatMap (position : Position) (codes : List Code) :
    Code.walkAll position codes = codes.flatMap (Code.walk position) := by
  induction codes with
  | nil => rfl
  | cons head rest ih => exact congrArg (head.walk position ++ ·) ih

theorem Item.walkAll_eq_flatMap (scope : ModuleScope) (items : List Item) :
    Item.walkAll scope items = items.flatMap (Item.walk scope) := by
  induction items with
  | nil => rfl
  | cons head rest ih => exact congrArg (head.walk scope ++ ·) ih

/-- The expressions of an arm in the order of the walk. -/
def Arm.parts : Arm → List Code
  | .mk attributes pattern guard body => attributes ++ (pattern ++ (guard.toList ++ [body]))

/-- The expressions that an expression consists of, in the order of the walk. The arguments of
macros are looked into in methods only. -/
def Code.parts (inMethod : Bool) : Code → List Code
  | .selfValue attributes => attributes
  | .path _ parts => parts
  | .paren attributes inner => attributes ++ [inner]
  | .reference attributes inner => attributes ++ [inner]
  | .field attributes base _ => attributes ++ [base]
  | .call attributes callee arguments => attributes ++ callee :: arguments
  | .methodCall attributes receiver _ arguments => attributes ++ receiver :: arguments
  | .conditional attributes condition body alternative =>
      attributes ++ condition :: body :: alternative.toList
  | .whileLoop attributes condition body => attributes ++ [condition, body]
  | .forLoop attributes pattern elements body => attributes ++ (pattern ++ [elements, body])
  | .endlessLoop attributes body => attributes ++ [body]
  | .binary _ left right => [left, right]
  | .propagation attributes base => attributes ++ [base]
  | .operation left rest => left :: rest
  | .select parts arms => parts ++ arms.flatMap Arm.parts
  | .macroCall attributes arguments => attributes ++ if inMethod then arguments else []
  | .item _ => []
  | .compound parts => parts
  | .skipped => []

/-- The events of an expression itself, which come before those of its parts. -/
def Code.ownEvents (position : Position) : Code → List Event
  | .field _ base name => if base.isSelf then [.access name] else []
  | .call _ callee _ => callee.invocation?.toList.map .call
  | .methodCall _ receiver name _ => [.call ⟨if receiver.isSelf then .ownType else .value, name⟩]
  | .conditional _ _ _ _ => [.decision .branchIf]
  | .whileLoop _ _ _ => [.decision .branchWhile]
  | .forLoop _ _ _ _ => [.decision .branchFor]
  | .endlessLoop _ _ => [.decision .branchLoop]
  | .binary symbol _ _ => (operatorDecision? symbol).toList.map .decision
  | .propagation _ _ => [.decision .propagate]
  | .select _ arms => armDecisions arms
  | .item nested => if position.inMethod then [] else nested.walk position.scope
  | _ => []

theorem Code.walkOption_eq (position : Position) (code : Option Code) :
    Code.walkOption position code = code.toList.flatMap (Code.walk position) := by
  cases code with
  | none => rfl
  | some code => exact (List.flatMap_singleton (Code.walk position) code).symm

theorem Arm.walk_eq (position : Position) (arm : Arm) :
    arm.walk position = arm.parts.flatMap (Code.walk position) := by
  obtain ⟨attributes, pattern, guard, body⟩ := arm
  simp [Arm.walk, Arm.parts, Code.walkOption_eq, Code.walkAll_eq_flatMap]

private theorem Arm.walkAll_eq (position : Position) (arms : List Arm) :
    Arm.walkAll position arms = (arms.flatMap Arm.parts).flatMap (Code.walk position) := by
  induction arms with
  | nil => rfl
  | cons head rest ih =>
      rw [Arm.walkAll, head.walk_eq, ih, List.flatMap_cons, List.flatMap_append]

/-- The walk over an expression reports the expression and then its parts. -/
theorem Code.walk_eq (position : Position) (code : Code) :
    code.walk position =
      code.ownEvents position ++
        (code.parts position.inMethod).flatMap (Code.walk position) := by
  cases code with
  | macroCall attributes arguments =>
      cases inMethod : position.inMethod with
      | true => simp [Code.walk, Code.parts, Code.ownEvents, Code.walkAll_eq_flatMap, inMethod]
      | false => simp [Code.walk, Code.parts, Code.ownEvents, Code.walkAll_eq_flatMap, inMethod]
  | _ =>
      simp [Code.walk, Code.parts, Code.ownEvents, Code.walkAll_eq_flatMap, Code.walkOption_eq,
        Arm.walkAll_eq]

theorem Arm.sizeOf_lt_of_mem_parts {part : Code} {arm : Arm} (isPart : part ∈ arm.parts) :
    sizeOf part < sizeOf arm := by
  obtain ⟨attributes, pattern, guard, body⟩ := arm
  simp only [Arm.parts, List.mem_append, Option.mem_toList, List.mem_singleton] at isPart
  rw [Arm.mk.sizeOf_spec]
  rcases isPart with inside | inside | isGuard | rfl
  · have := List.sizeOf_lt_of_mem inside
    omega
  · have := List.sizeOf_lt_of_mem inside
    omega
  · rw [isGuard, Option.some.sizeOf_spec]
    omega
  · omega

theorem Code.sizeOf_lt_of_mem_parts {part code : Code} {inMethod : Bool}
    (isPart : part ∈ code.parts inMethod) : sizeOf part < sizeOf code := by
  have smaller {codes : List Code} (inside : part ∈ codes) : sizeOf part < sizeOf codes :=
    List.sizeOf_lt_of_mem inside
  cases code with
  | item _ | skipped => cases isPart
  | conditional attributes condition body alternative =>
      simp only [Code.parts, List.mem_append, List.mem_cons, Option.mem_toList] at isPart
      rw [Code.conditional.sizeOf_spec]
      rcases isPart with inside | rfl | rfl | isAlternative
      · have := smaller inside
        omega
      · omega
      · omega
      · rw [isAlternative, Option.some.sizeOf_spec]
        omega
  | select parts arms =>
      rw [Code.select.sizeOf_spec]
      rcases List.mem_append.mp isPart with inside | inArms
      · have := smaller inside
        omega
      · obtain ⟨arm, isArm, inside⟩ := List.mem_flatMap.mp inArms
        have := Arm.sizeOf_lt_of_mem_parts inside
        have := List.sizeOf_lt_of_mem isArm
        omega
  | _ =>
      simp only [Code.parts, List.mem_append, List.mem_cons, List.not_mem_nil, or_false] at isPart
      simp only [Code.selfValue.sizeOf_spec, Code.path.sizeOf_spec, Code.paren.sizeOf_spec,
        Code.reference.sizeOf_spec, Code.field.sizeOf_spec, Code.call.sizeOf_spec,
        Code.methodCall.sizeOf_spec, Code.whileLoop.sizeOf_spec, Code.forLoop.sizeOf_spec,
        Code.endlessLoop.sizeOf_spec, Code.binary.sizeOf_spec, Code.propagation.sizeOf_spec,
        Code.operation.sizeOf_spec, Code.macroCall.sizeOf_spec, Code.compound.sizeOf_spec]
      grind

/-! ### Items inside -/

/-- Outside of methods the item is a part of the code, or of one of its parts. -/
inductive Code.Reaches (item : Item) : Code → Prop
  | here : Reaches item (.item item)
  | inside {part code : Code} (isPart : part ∈ code.parts false) (reaches : part.Reaches item) :
      Reaches item code

/-- The item lies in the module with the path, directly under these siblings or in a block of one
of them. The first module is the one that is walked; modules of test code are left out. -/
inductive Item.LiesIn (module : List String) (items : List Item) :
    List String → List Item → Item → Prop
  | direct {item : Item} (present : item ∈ items) : LiesIn module items module items item
  | inside {path : List String} {siblings own : List Item} {attributes : List Attribute}
      {name : String} {item : Item}
      (lies : LiesIn module items path siblings (.inlineModule attributes name (some own)))
      (counted : isTestCode attributes = false) (present : item ∈ own) :
      LiesIn module items (path ++ [name]) own item
  | inBlock {path : List String} {siblings : List Item} {attributes : List Attribute}
      {parts : List Code} {part : Code} {item : Item}
      (lies : LiesIn module items path siblings (.declaration attributes parts))
      (isPart : part ∈ parts) (reaches : part.Reaches item) :
      LiesIn module items path siblings item

theorem infix_flatMap_of_mem {α β : Type} {item : α} {items : List α} (present : item ∈ items)
    (events : α → List β) : events item <:+: items.flatMap events :=
  List.infix_of_mem_flatten (List.mem_map_of_mem present)

theorem Code.Reaches.infix_walk {item : Item} {code : Code} (reaches : code.Reaches item)
    (scope : ModuleScope) : item.walk scope <:+: code.walk { scope } := by
  induction reaches with
  | here =>
      rw [Code.walk]
      exact List.infix_refl _
  | inside isPart _ ih =>
      rw [Code.walk_eq]
      exact List.infix_append_of_infix_right (ih.trans (infix_flatMap_of_mem isPart _))

/-- The events of an item are found where the item lies. -/
theorem Item.LiesIn.infix_walkAll {module path : List String} {items siblings : List Item}
    {item : Item} (lies : Item.LiesIn module items path siblings item) :
    item.walk (.ofItems path siblings) <:+: Item.walkAll (.ofItems module items) items := by
  induction lies with
  | direct present =>
      rw [Item.walkAll_eq_flatMap]
      exact infix_flatMap_of_mem present _
  | @inside path siblings own attributes name item lies counted present ih =>
      rw [Item.walk, counted] at ih
      refine List.IsInfix.trans ?_ ih
      change _ <:+: Item.walkAll (.ofItems (path ++ [name]) own) own
      rw [Item.walkAll_eq_flatMap]
      exact infix_flatMap_of_mem present _
  | @inBlock path siblings attributes parts part item lies isPart reaches ih =>
      rw [Item.walk, Code.walkAll_eq_flatMap] at ih
      have inParts := (reaches.infix_walk (.ofItems path siblings)).trans
        (infix_flatMap_of_mem isPart (Code.walk { scope := ModuleScope.ofItems path siblings }))
      exact (List.infix_append_of_infix_right inParts).trans ih

theorem SourceFile.infix_walk {file : SourceFile} (counted : isTestCode file.attributes = false)
    {module path : List String} {siblings : List Item} {item : Item}
    (lies : Item.LiesIn module file.items path siblings item) :
    item.walk (.ofItems path siblings) <:+: file.walk module := by
  rw [SourceFile.walk, counted]
  exact List.infix_append_of_infix_right lies.infix_walkAll

end CrateMetrics.Rust
