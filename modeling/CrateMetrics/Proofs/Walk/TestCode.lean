/-
Test code in walks. Leaving out what is marked as test code never adds to a walk, and mostly leaves
it as it is. Two kinds of test code are reported all the same, and make the whole difference:
methods of traits, and constants and other declarations with something to report.
-/

import CrateMetrics.Proofs.Walk.Placement
import CrateMetrics.SourceUnit

namespace CrateMetrics.Rust

/-! ### Trees without test code -/

/-- Whether the item is left out as test code. Imports always stay. -/
def Item.isTest : Item → Bool
  | .use _ _ => false
  | item => isTestCode item.attributes

def Code.isTest : Code → Bool
  | .item nested => nested.isTest
  | _ => false

def Method.withoutTestsAll (methods : List Method) : List Method :=
  methods.filter (fun method => !isTestCode method.attributes)

mutual

/-- The expression without the test code in its blocks. Should an item stand where there has to be
an expression, an empty block takes its place. -/
def Code.withoutTests : Code → Code
  | .selfValue attributes => .selfValue (Code.withoutTestsAll attributes)
  | .path names parts => .path names (Code.withoutTestsAll parts)
  | .paren attributes inner => .paren (Code.withoutTestsAll attributes) inner.withoutTests
  | .reference attributes inner => .reference (Code.withoutTestsAll attributes) inner.withoutTests
  | .field attributes base name =>
      .field (Code.withoutTestsAll attributes) base.withoutTests name
  | .call attributes callee arguments =>
      .call (Code.withoutTestsAll attributes) callee.withoutTests (Code.withoutTestsAll arguments)
  | .methodCall attributes receiver name arguments =>
      .methodCall (Code.withoutTestsAll attributes) receiver.withoutTests name
        (Code.withoutTestsAll arguments)
  | .conditional attributes condition body alternative =>
      .conditional (Code.withoutTestsAll attributes) condition.withoutTests body.withoutTests
        (Code.withoutTestsOption alternative)
  | .whileLoop attributes condition body =>
      .whileLoop (Code.withoutTestsAll attributes) condition.withoutTests body.withoutTests
  | .forLoop attributes pattern elements body =>
      .forLoop (Code.withoutTestsAll attributes) (Code.withoutTestsAll pattern)
        elements.withoutTests body.withoutTests
  | .endlessLoop attributes body =>
      .endlessLoop (Code.withoutTestsAll attributes) body.withoutTests
  | .binary symbol left right => .binary symbol left.withoutTests right.withoutTests
  | .propagation attributes base =>
      .propagation (Code.withoutTestsAll attributes) base.withoutTests
  | .operation left rest => .operation left.withoutTests (Code.withoutTestsAll rest)
  | .select parts arms => .select (Code.withoutTestsAll parts) (Arm.withoutTestsAll arms)
  | .macroCall attributes arguments => .macroCall (Code.withoutTestsAll attributes) arguments
  | .item nested => if nested.isTest then .compound [] else .item nested.withoutTests
  | .compound parts => .compound (Code.withoutTestsAll parts)
  | .skipped => .skipped

def Code.withoutTestsAll : List Code → List Code
  | [] => []
  | code :: rest =>
      if code.isTest then Code.withoutTestsAll rest
      else code.withoutTests :: Code.withoutTestsAll rest

def Arm.withoutTests : Arm → Arm
  | .mk attributes pattern guard body =>
      .mk (Code.withoutTestsAll attributes) (Code.withoutTestsAll pattern)
        (Code.withoutTestsOption guard) body.withoutTests

def Code.withoutTestsOption : Option Code → Option Code
  | none => none
  | some code => some code.withoutTests

def Arm.withoutTestsAll : List Arm → List Arm
  | [] => []
  | arm :: rest => arm.withoutTests :: Arm.withoutTestsAll rest

/-- The item without the test code inside of it. The code of methods stays as it is. -/
def Item.withoutTests : Item → Item
  | .implementation attributes owner traitName methods =>
      .implementation attributes owner traitName (Method.withoutTestsAll methods)
  | .traitDeclaration attributes name methods =>
      .traitDeclaration attributes name (Method.withoutTestsAll methods)
  | .inlineModule attributes name items =>
      .inlineModule attributes name (Item.withoutTestsInside items)
  | .declaration attributes parts => .declaration attributes (Code.withoutTestsAll parts)
  | .typeDeclaration attributes name fields => .typeDeclaration attributes name fields
  | .use attributes tree => .use attributes tree
  | .function attributes => .function attributes
  | .skipped => .skipped

def Item.withoutTestsInside : Option (List Item) → Option (List Item)
  | none => none
  | some items => some (Item.withoutTestsAll items)

def Item.withoutTestsAll : List Item → List Item
  | [] => []
  | item :: rest =>
      if item.isTest then Item.withoutTestsAll rest
      else item.withoutTests :: Item.withoutTestsAll rest

end

def SourceFile.withoutTests (file : SourceFile) : SourceFile :=
  { attributes := file.attributes, items := Item.withoutTestsAll file.items }

/-! ### Test code that is reported -/

/-- There is test code in the item that the walk reports: a method of a trait, or a declaration with
something to report. -/
inductive Item.Leaks : ModuleScope → Item → Prop
  | method {scope : ModuleScope} {attributes : List Attribute} {name : String}
      {methods : List Method} {method : Method} (counted : isTestCode attributes = false)
      (present : method ∈ methods) (isTest : isTestCode method.attributes = true) :
      Leaks scope (.traitDeclaration attributes name methods)
  | declaration {scope : ModuleScope} {attributes : List Attribute} {parts : List Code}
      (isTest : isTestCode attributes = true)
      (reported : (Item.declaration attributes parts).walk scope ≠ []) :
      Leaks scope (.declaration attributes parts)
  | inModule {scope : ModuleScope} {attributes : List Attribute} {name : String}
      {items : List Item} {item : Item} (counted : isTestCode attributes = false)
      (present : item ∈ items) (leaks : Leaks (.ofItems (scope.path ++ [name]) items) item) :
      Leaks scope (.inlineModule attributes name (some items))
  | inBlock {scope : ModuleScope} {attributes : List Attribute} {parts : List Code}
      {part : Code} {item : Item} (counted : isTestCode attributes = false)
      (isPart : part ∈ parts) (reaches : part.Reaches item) (leaks : Leaks scope item) :
      Leaks scope (.declaration attributes parts)

/-- An item that the code reaches leaks. -/
def Code.Leaks (scope : ModuleScope) (code : Code) : Prop :=
  ∃ item, code.Reaches item ∧ item.Leaks scope

/-! ### Events left over -/

/-- Only some of the events are left, and all of them exactly if nothing leaks. -/
structure Trims (left events : List Event) (leaks : Prop) : Prop where
  sublist : left.Sublist events
  same_iff : left = events ↔ ¬leaks

namespace Trims

variable {left right events later : List Event} {leaks other : Prop}

theorem refl (events : List Event) (silent : ¬leaks) : Trims events events leaks :=
  ⟨List.Sublist.refl events, iff_of_true rfl silent⟩

theorem dropped (lost : leaks ↔ events ≠ []) : Trims [] events leaks := by
  refine ⟨List.nil_sublist events, ?_⟩
  rw [lost, not_not]
  exact eq_comm

theorem congr (trims : Trims left events leaks) (same : leaks ↔ other) : Trims left events other :=
  ⟨trims.sublist, trims.same_iff.trans (not_congr same)⟩

theorem append (first : Trims left events leaks) (second : Trims right later other) :
    Trims (left ++ right) (events ++ later) (leaks ∨ other) := by
  refine ⟨first.sublist.append second.sublist, ?_⟩
  rw [not_or, ← first.same_iff, ← second.same_iff]
  constructor
  · intro same
    have lengths := congrArg List.length same
    rw [List.length_append, List.length_append] at lengths
    have shorter := first.sublist.length_le
    have laterShorter := second.sublist.length_le
    exact ⟨first.sublist.eq_of_length (by omega), second.sublist.eq_of_length (by omega)⟩
  · rintro ⟨rfl, rfl⟩
    rfl

theorem flatMap {β : Type} {items : List β} {kept walked : β → List Event} {leaking : β → Prop}
    (each : ∀ item, item ∈ items → Trims (kept item) (walked item) (leaking item)) :
    Trims (items.flatMap kept) (items.flatMap walked) (∃ item ∈ items, leaking item) := by
  induction items with
  | nil => exact refl [] (fun some => nomatch some)
  | cons head rest ih =>
      have later := ih (fun item present => each item (List.Mem.tail head present))
      rw [List.flatMap_cons, List.flatMap_cons]
      have whole := (each head (List.Mem.head rest)).append later
      exact whole.congr (List.exists_mem_cons_iff _ _ _).symm

/-- What comes before and after stays. -/
theorem between (trims : Trims left events leaks) (before after : List Event) :
    Trims (before ++ (left ++ after)) (before ++ (events ++ after)) leaks := by
  have whole := (refl before id).append (trims.append (refl after id))
  exact whole.congr (by rw [false_or, or_false])

end Trims

/-! ### Expressions -/

theorem Code.isSelf_withoutTests : (code : Code) → code.withoutTests.isSelf = code.isSelf
  | .paren _ inner => by
      rw [Code.withoutTests, Code.isSelf, Code.isSelf]
      exact inner.isSelf_withoutTests
  | .reference _ inner => by
      rw [Code.withoutTests, Code.isSelf, Code.isSelf]
      exact inner.isSelf_withoutTests
  | .item nested => by
      rw [Code.withoutTests]
      cases nested.isTest with
      | true => rfl
      | false => rfl
  | .selfValue _ | .path _ _ | .field _ _ _ | .call _ _ _ | .methodCall _ _ _ _
  | .conditional _ _ _ _ | .whileLoop _ _ _ | .forLoop _ _ _ _ | .endlessLoop _ _ | .binary _ _ _
  | .propagation _ _ | .operation _ _ | .select _ _ | .macroCall _ _ | .compound _ | .skipped => by
      simp [Code.withoutTests, Code.isSelf]

theorem Code.invocation?_withoutTests (code : Code) :
    code.withoutTests.invocation? = code.invocation? := by
  have names : code.withoutTests.pathNames? = code.pathNames? := by
    cases code with
    | item nested =>
        rw [Code.withoutTests]
        cases nested.isTest with
        | true => rfl
        | false => rfl
    | _ => simp only [Code.withoutTests, Code.pathNames?]
  unfold Code.invocation?
  rw [names]

theorem Arm.withoutTestsAll_eq_map (arms : List Arm) :
    Arm.withoutTestsAll arms = arms.map Arm.withoutTests := by
  induction arms with
  | nil => rfl
  | cons head rest ih => exact congrArg (head.withoutTests :: ·) ih

theorem armDecisions_withoutTestsAll (arms : List Arm) :
    armDecisions (Arm.withoutTestsAll arms) = armDecisions arms := by
  unfold armDecisions
  dsimp only
  rw [Arm.withoutTestsAll_eq_map, ← List.map_drop, List.map_map, List.filter_map, List.map_map]
  refine congrArg (_ ++ ·) (congrArg (List.map _) (List.filter_congr ?_))
  intro arm _
  obtain ⟨_, _, guard, _⟩ := arm
  cases guard with
  | none => rfl
  | some _ => rfl

section

variable (scope : ModuleScope)

/-- Nothing is to be walked in place of an item that is left out. -/
theorem Code.walk_withoutTests_of_isTest {code : Code} (isTest : code.isTest = true) :
    code.withoutTests.walk { scope } = [] := by
  cases code with
  | item nested =>
      have nestedIsTest : nested.isTest = true := isTest
      rw [Code.withoutTests, nestedIsTest]
      rfl
  | _ => cases isTest

theorem Code.walkAll_withoutTestsAll (codes : List Code) :
    Code.walkAll { scope } (Code.withoutTestsAll codes) =
      codes.flatMap (fun code => code.withoutTests.walk { scope }) := by
  induction codes with
  | nil => rfl
  | cons head rest ih =>
      rw [Code.withoutTestsAll, List.flatMap_cons]
      cases isTest : head.isTest with
      | true =>
          rw [Code.walk_withoutTests_of_isTest scope isTest]
          exact ih
      | false => exact congrArg (head.withoutTests.walk { scope } ++ ·) ih

theorem Code.walkOption_withoutTestsOption (code : Option Code) :
    Code.walkOption { scope } (Code.withoutTestsOption code) =
      code.toList.flatMap (fun code => code.withoutTests.walk { scope }) := by
  cases code with
  | none => rfl
  | some code => exact (List.append_nil _).symm

theorem Arm.walkAll_withoutTestsAll (arms : List Arm) :
    Arm.walkAll { scope } (Arm.withoutTestsAll arms) =
      (arms.flatMap Arm.parts).flatMap (fun code => code.withoutTests.walk { scope }) := by
  have each (arm : Arm) : arm.withoutTests.walk { scope } =
      arm.parts.flatMap (fun code => code.withoutTests.walk { scope }) := by
    obtain ⟨attributes, pattern, guard, body⟩ := arm
    simp [Arm.withoutTests, Arm.walk, Arm.parts, Code.walkAll_withoutTestsAll,
      Code.walkOption_withoutTestsOption]
  induction arms with
  | nil => rfl
  | cons head rest ih =>
      rw [Arm.withoutTestsAll, Arm.walkAll, each, ih, List.flatMap_cons, List.flatMap_append]

/-- An expression reports itself as before, then what is left of its parts. -/
theorem Code.walk_withoutTests {code : Code} (plain : ∀ nested, code ≠ .item nested) :
    code.withoutTests.walk { scope } =
      code.ownEvents { scope } ++
        (code.parts false).flatMap (fun part => part.withoutTests.walk { scope }) := by
  cases code with
  | item nested => exact absurd rfl (plain nested)
  | _ =>
      simp [Code.withoutTests, Code.walk, Code.parts, Code.ownEvents,
        Code.walkAll_withoutTestsAll, Code.walkOption_withoutTestsOption,
        Arm.walkAll_withoutTestsAll, Code.isSelf_withoutTests, Code.invocation?_withoutTests,
        armDecisions_withoutTestsAll]

end

/-! ### Items -/

/-- What is left out binds no names. -/
private theorem useBindings_of_isTest {item : Item} (isTest : item.isTest = true) :
    ModuleScope.useBindings [item] = [] := by
  cases item with
  | use _ _ => cases isTest
  | _ => rfl

private theorem useBindings_withoutTests (item : Item) :
    ModuleScope.useBindings [item.withoutTests] = ModuleScope.useBindings [item] := by
  cases item with
  | _ => simp [Item.withoutTests, ModuleScope.useBindings]

theorem useBindings_withoutTestsAll (items : List Item) :
    ModuleScope.useBindings (Item.withoutTestsAll items) = ModuleScope.useBindings items := by
  have split (head : Item) (rest : List Item) : ModuleScope.useBindings (head :: rest) =
      ModuleScope.useBindings [head] ++ ModuleScope.useBindings rest := by
    change ModuleScope.useBindings ([head] ++ rest) = _
    exact List.flatMap_append
  induction items with
  | nil => rfl
  | cons head rest ih =>
      rw [Item.withoutTestsAll, split head rest]
      cases isTest : head.isTest with
      | true =>
          rw [useBindings_of_isTest isTest]
          exact ih
      | false =>
          rw [← useBindings_withoutTests head, ← ih]
          exact split head.withoutTests _

theorem Item.ofItems_withoutTestsAll (path : List String) (items : List Item) :
    ModuleScope.ofItems path (Item.withoutTestsAll items) = .ofItems path items := by
  unfold ModuleScope.ofItems
  rw [useBindings_withoutTestsAll]

section

variable (scope : ModuleScope)

/-- What is left to report of an item. -/
def Item.left (item : Item) : List Event :=
  if item.isTest then [] else item.withoutTests.walk scope

theorem Item.walkAll_withoutTestsAll (items : List Item) :
    Item.walkAll scope (Item.withoutTestsAll items) = items.flatMap (Item.left scope) := by
  induction items with
  | nil => rfl
  | cons head rest ih =>
      rw [Item.withoutTestsAll, List.flatMap_cons, Item.left]
      cases head.isTest with
      | true => exact ih
      | false => exact congrArg (head.withoutTests.walk scope ++ ·) ih

theorem Method.walkImplemented_withoutTestsAll (traitName : Option String)
    (methods : List Method) :
    Method.walkImplemented scope traitName (Method.withoutTestsAll methods) =
      Method.walkImplemented scope traitName methods := by
  induction methods with
  | nil => rfl
  | cons head rest ih =>
      rw [Method.withoutTestsAll, List.filter_cons, Method.walkImplemented]
      cases isTest : isTestCode head.attributes with
      | true => exact ih
      | false =>
          change Method.walkImplemented scope traitName (head :: Method.withoutTestsAll rest) = _
          rw [Method.walkImplemented, isTest, ih]

theorem Method.trims_walkDeclared (methods : List Method) :
    Trims (Method.walkDeclared scope (Method.withoutTestsAll methods))
      (Method.walkDeclared scope methods)
      (∃ method ∈ methods, isTestCode method.attributes = true) := by
  induction methods with
  | nil => exact .refl [] (fun some => nomatch some)
  | cons head rest ih =>
      have first : Trims (if isTestCode head.attributes then [] else head.walk scope none)
          (head.walk scope none) (isTestCode head.attributes = true) := by
        cases isTestCode head.attributes with
        | true =>
            obtain ⟨_, name, body⟩ := head
            rw [Method.walk]
            exact .dropped (iff_of_true rfl (List.cons_ne_nil _ _))
        | false => exact .refl _ Bool.false_ne_true
      have both := (first.append ih).congr
        (List.exists_mem_cons_iff (fun method : Method => isTestCode method.attributes = true)
          head rest).symm
      rw [Method.withoutTestsAll, List.filter_cons, Method.walkDeclared]
      cases isTest : isTestCode head.attributes with
      | true =>
          rw [isTest] at both
          exact both
      | false =>
          rw [isTest] at both
          exact both

theorem Code.leaks_iff {code : Code} (plain : ∀ nested, code ≠ .item nested) :
    code.Leaks scope ↔ ∃ part ∈ code.parts false, part.Leaks scope := by
  constructor
  · rintro ⟨item, reaches, leaks⟩
    cases reaches with
    | here => exact absurd rfl (plain item)
    | inside isPart reaches => exact ⟨_, isPart, item, reaches, leaks⟩
  · rintro ⟨part, isPart, item, reaches, leaks⟩
    exact ⟨item, .inside isPart reaches, leaks⟩

theorem Code.leaks_item_iff (nested : Item) :
    (Code.item nested).Leaks scope ↔ nested.Leaks scope := by
  constructor
  · rintro ⟨item, reaches, leaks⟩
    cases reaches with
    | here => exact leaks
    | inside isPart _ => cases isPart
  · intro leaks
    exact ⟨nested, .here, leaks⟩

end

/-- Of all items that are left out, only declarations report anything. -/
theorem Item.leaks_iff_of_isTest (scope : ModuleScope) {item : Item} (isTest : item.isTest = true) :
    item.Leaks scope ↔ item.walk scope ≠ [] := by
  have clash {attributes : List Attribute} (isTest : isTestCode attributes = true)
      (counted : isTestCode attributes = false) : False :=
    Bool.false_ne_true (counted.symm.trans isTest)
  constructor
  · intro leaks
    cases leaks with
    | method counted _ _ => exact (clash isTest counted).elim
    | declaration _ reported => exact reported
    | inModule counted _ _ => exact (clash isTest counted).elim
    | inBlock counted _ _ _ => exact (clash isTest counted).elim
  · intro reported
    cases item with
    | declaration attributes parts => exact .declaration isTest reported
    | use _ _ => cases isTest
    | function _ | skipped => exact absurd rfl reported
    | typeDeclaration attributes _ _ | traitDeclaration attributes _ _
    | inlineModule attributes _ _ =>
        have marked : isTestCode attributes = true := isTest
        rw [Item.walk, if_pos marked] at reported
        exact absurd rfl reported
    | implementation attributes owner _ _ =>
        have marked : isTestCode attributes = true := isTest
        cases owner with
        | none => exact absurd rfl reported
        | some _ =>
            rw [Item.walk, if_pos marked] at reported
            exact absurd rfl reported

-- Items hold expressions and these hold items, so the induction is on the size of both. Whether an
-- item is left out is asked before it is looked into, hence the odd sizes.
mutual

theorem Code.trims_walk (scope : ModuleScope) (code : Code) :
    Trims (code.withoutTests.walk { scope }) (code.walk { scope }) (code.Leaks scope) := by
  by_cases isItem : ∃ nested, code = .item nested
  · obtain ⟨nested, rfl⟩ := isItem
    have whole := (nested.trims_left scope).congr (Code.leaks_item_iff scope nested).symm
    rw [Item.left] at whole
    rw [Code.withoutTests, Code.walk]
    cases isTest : nested.isTest with
    | true =>
        rw [isTest] at whole
        exact whole
    | false =>
        rw [isTest] at whole
        exact whole
  · have plain (nested : Item) (same : code = .item nested) : False := isItem ⟨nested, same⟩
    have parts : Trims
        ((code.parts false).flatMap (fun part => part.withoutTests.walk { scope }))
        ((code.parts false).flatMap (Code.walk { scope }))
        (∃ part ∈ code.parts false, part.Leaks scope) :=
      Trims.flatMap (fun part isPart => part.trims_walk scope)
    rw [Code.walk_withoutTests scope plain, Code.walk_eq]
    have whole := (parts.between (code.ownEvents { scope }) []).congr
      (Code.leaks_iff scope plain).symm
    rw [List.append_nil, List.append_nil] at whole
    exact whole
termination_by 2 * sizeOf code
decreasing_by
  · rename_i same
    rw [same, Code.item.sizeOf_spec]
    omega
  · have := Code.sizeOf_lt_of_mem_parts isPart
    omega

theorem Item.trims_left (scope : ModuleScope) (item : Item) :
    Trims (item.left scope) (item.walk scope) (item.Leaks scope) := by
  unfold Item.left
  cases isTest : item.isTest with
  | true => exact .dropped (Item.leaks_iff_of_isTest scope isTest)
  | false => exact item.trims_withoutTests scope isTest
termination_by 2 * sizeOf item + 1

theorem Item.trims_withoutTests (scope : ModuleScope) : (item : Item) → item.isTest = false →
    Trims (item.withoutTests.walk scope) (item.walk scope) (item.Leaks scope)
  | .typeDeclaration _ _ _, _ | .use _ _, _ | .function _, _ | .skipped, _ => by
      rw [Item.withoutTests]
      exact .refl _ (fun leaks => nomatch leaks)
  | .implementation attributes owner traitName methods, _ => by
      rw [Item.withoutTests]
      cases owner with
      | none => exact .refl [] (fun leaks => nomatch leaks)
      | some segments =>
          rw [Item.walk, Item.walk, Method.walkImplemented_withoutTestsAll]
          exact .refl _ (fun leaks => nomatch leaks)
  | .traitDeclaration attributes name methods, isTest => by
      have counted : isTestCode attributes = false := isTest
      rw [Item.withoutTests, Item.walk, Item.walk, counted]
      have whole := (Method.trims_walkDeclared scope methods).between
        [.enterClass (scope.declaredName name)] [.exitClass (scope.declaredName name)]
      refine whole.congr ?_
      constructor
      · rintro ⟨method, present, isTestMethod⟩
        exact .method counted present isTestMethod
      · intro leaks
        cases leaks with
        | method _ present isTestMethod => exact ⟨_, present, isTestMethod⟩
  | .inlineModule attributes name none, isTest => by
      have counted : isTestCode attributes = false := isTest
      rw [Item.withoutTests, Item.walk, Item.walk, counted]
      exact .refl [] (fun leaks => nomatch leaks)
  | .inlineModule attributes name (some items), isTest => by
      have counted : isTestCode attributes = false := isTest
      have inside : Trims (items.flatMap (Item.left (.ofItems (scope.path ++ [name]) items)))
          (items.flatMap (Item.walk (.ofItems (scope.path ++ [name]) items)))
          (∃ item ∈ items, item.Leaks (.ofItems (scope.path ++ [name]) items)) :=
        Trims.flatMap (fun item present => item.trims_left _)
      rw [← Item.walkAll_withoutTestsAll, ← Item.walkAll_eq_flatMap] at inside
      rw [Item.withoutTests, Item.walk, Item.walk, counted, Item.withoutTestsInside,
        Item.walkModule, Item.ofItems_withoutTestsAll]
      refine inside.congr ?_
      constructor
      · rintro ⟨item, present, leaks⟩
        exact .inModule counted present leaks
      · intro leaks
        cases leaks with
        | inModule _ present leaks => exact ⟨_, present, leaks⟩
  | .declaration attributes parts, isTest => by
      have counted : isTestCode attributes = false := isTest
      have blocks : Trims (parts.flatMap (fun part => part.withoutTests.walk { scope }))
          (parts.flatMap (Code.walk { scope })) (∃ part ∈ parts, part.Leaks scope) :=
        Trims.flatMap (fun part isPart => part.trims_walk scope)
      have whole := blocks.between (Attribute.walkAll { scope } attributes) []
      rw [List.append_nil, List.append_nil, ← Code.walkAll_withoutTestsAll,
        ← Code.walkAll_eq_flatMap] at whole
      rw [Item.withoutTests, Item.walk, Item.walk]
      refine whole.congr ?_
      constructor
      · rintro ⟨part, isPart, item, reaches, leaks⟩
        exact .inBlock counted isPart reaches leaks
      · intro leaks
        cases leaks with
        | declaration isTest _ =>
            rw [counted] at isTest
            cases isTest
        | inBlock _ isPart reaches leaks => exact ⟨_, isPart, _, reaches, leaks⟩
termination_by item => 2 * sizeOf item
decreasing_by
  · have := List.sizeOf_lt_of_mem present
    rw [Item.inlineModule.sizeOf_spec, Option.some.sizeOf_spec]
    omega
  · have := List.sizeOf_lt_of_mem isPart
    rw [Item.declaration.sizeOf_spec]
    omega

end

namespace SourceFile

/-- Leaving out the test code of a file adds no events under any module, and changes the order of
none. It takes none away, either, exactly if the file is test code as a whole or none of its items
leaks. -/
theorem walk_withoutTests_eq_iff (file : SourceFile) (module : List String) :
    (file.withoutTests.walk module).Sublist (file.walk module) ∧
      (file.withoutTests.walk module = file.walk module ↔
        ¬(isTestCode file.attributes = false ∧
          ∃ item ∈ file.items, item.Leaks (.ofItems module file.items))) := by
  have trims : Trims (file.withoutTests.walk module) (file.walk module)
      (isTestCode file.attributes = false ∧
        ∃ item ∈ file.items, item.Leaks (.ofItems module file.items)) := by
    obtain ⟨attributes, items⟩ := file
    rw [withoutTests, walk, walk]
    dsimp only
    cases isTestCode attributes with
    | true => exact .refl [] (fun both => Bool.false_ne_true both.1.symm)
    | false =>
        have each : Trims (items.flatMap (Item.left (.ofItems module items)))
            (items.flatMap (Item.walk (.ofItems module items)))
            (∃ item ∈ items, item.Leaks (.ofItems module items)) :=
          Trims.flatMap (fun item _ => item.trims_left _)
        rw [← Item.walkAll_withoutTestsAll, ← Item.walkAll_eq_flatMap] at each
        have whole := each.between
          (Attribute.walkAll { scope := .ofItems module items } attributes) []
        rw [List.append_nil, List.append_nil] at whole
        rw [Item.ofItems_withoutTestsAll]
        exact whole.congr (and_iff_right rfl).symm
  exact ⟨trims.sublist, trims.same_iff⟩

/-- A method of a trait for tests only, and a constant for tests only. -/
def probeUnits : List SourceUnit :=
  [{ name := "src/lib.rs", source := "trait Shape { #[cfg(test)] fn probe(&self) {} }" },
    { name := "src/probes.rs", source := "#[cfg(test)] const PROBES: () = { trait Probe {} };" }]

theorem probeUnits_leak :
    probeUnits.map (fun unit => unit.tree.toOption.map (fun file => file.walk [])) =
        [some [.enterClass "Shape", .enterMethod "probe", .exitMethod "probe", .exitClass "Shape"],
          some [.enterClass "Probe", .exitClass "Probe"]] ∧
      probeUnits.map (fun unit => unit.tree.toOption.map (fun file => file.withoutTests.walk [])) =
        [some [.enterClass "Shape", .exitClass "Shape"], some []] := by
  decide +kernel

end SourceFile

end CrateMetrics.Rust
