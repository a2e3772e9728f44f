/-
The methods of a file. They are found in its `impl` blocks and traits, in modules and in blocks of
declarations, but not in other methods. The walk reports a bracket for each of them, under the class
that it is counted for, and no others.
-/

import CrateMetrics.Proofs.ClassMeasurement
import CrateMetrics.Proofs.MethodBrackets
import CrateMetrics.Proofs.Walk.Expressions

namespace CrateMetrics

/-- A class is measured under its name. -/
theorem Meter.filter_classes {α : Type} [Scalar α] (meter : Meter α) (events : List Event)
    (className : String) :
    (meter.classes events).filter (fun measured => measured.name == className) =
      ((meter.kind.classValues events).filter (fun value => value.name == className)).map
        meter.classMeasurement :=
  List.filter_map

theorem Event.isPlain_of_isCode {event : Event} (isCode : event.isCode = true) :
    event.isPlain = true := by
  cases event <;> first | rfl | cases isCode

namespace Rust

/-- A method where it is found: in an `impl` block or trait of a class, under the name of the trait
that the block implements. -/
structure FoundMethod where
  className : String
  traitName : Option String
  method : Method

namespace FoundMethod

def name (found : FoundMethod) : String :=
  methodName found.traitName found.method.name

def body (found : FoundMethod) : Code :=
  found.method.body

/-- The bracket that the walk reports. -/
def span (found : FoundMethod) : MethodSpan where
  name := found.name
  body := found.body.report
  plain _ present := Event.isPlain_of_isCode (Code.isCode_of_mem_report present)

end FoundMethod

/-- The expressions outside of methods in which items may be found. -/
def Item.codes : Item → List Code
  | .use attributes _ => Attribute.values attributes
  | .declaration attributes parts => Attribute.values attributes ++ parts
  | _ => []

/-- The items in the blocks of an expression outside of methods. -/
def Code.items (code : Code) : List Item :=
  (code.expressions false).filterMap Code.item?

/-- The items right inside of an item, with what is in scope there. -/
def Item.inner (scope : ModuleScope) : Item → List (ModuleScope × Item)
  | .inlineModule attributes name (some items) =>
      if isTestCode attributes then []
      else items.map (fun item => (.ofItems (scope.path ++ [name]) items, item))
  | item => (item.codes.flatMap Code.items).map (fun nested => (scope, nested))

/-- The methods of an `impl` block or a trait. -/
def Item.ownMethods (scope : ModuleScope) : Item → List FoundMethod
  | .implementation attributes (some segments) traitName methods =>
      if isTestCode attributes then []
      else (methods.filter (fun method => !isTestCode method.attributes)).map
        (FoundMethod.mk (scope.className segments) traitName)
  | .traitDeclaration attributes name methods =>
      if isTestCode attributes then []
      else methods.map (FoundMethod.mk (scope.declaredName name) none)
  | _ => []

private theorem Attribute.sizeOf_lt_of_mem_values {attributes : List Attribute} {value : Code}
    (present : value ∈ Attribute.values attributes) : sizeOf value < sizeOf attributes := by
  obtain ⟨attr, isAttribute, isValue⟩ := List.mem_filterMap.mp present
  have smaller := List.sizeOf_lt_of_mem isAttribute
  obtain ⟨rooted, path, form⟩ := attr
  cases form with
  | assigned assigned =>
      cases isValue
      rw [Attribute.mk.sizeOf_spec, AttributeForm.assigned.sizeOf_spec] at smaller
      omega
  | _ => cases isValue

private theorem Code.sizeOf_lt_of_mem_items {code : Code} {item : Item}
    (present : item ∈ code.items) : sizeOf item < sizeOf code := by
  obtain ⟨inner, inside, isItem⟩ := List.mem_filterMap.mp present
  have bound := Code.sizeOf_le_of_mem_expressions inside
  cases inner with
  | item nested =>
      cases isItem
      rw [Code.item.sizeOf_spec] at bound
      omega
  | _ => cases isItem

private theorem Item.sizeOf_lt_of_mem_codes {item : Item} {code : Code}
    (present : code ∈ item.codes) : sizeOf code < sizeOf item := by
  cases item with
  | use attributes tree =>
      have smaller := Attribute.sizeOf_lt_of_mem_values present
      rw [Item.use.sizeOf_spec]
      omega
  | declaration attributes parts =>
      rw [Item.declaration.sizeOf_spec]
      rcases List.mem_append.mp present with isValue | isPart
      · have smaller := Attribute.sizeOf_lt_of_mem_values isValue
        omega
      · have smaller := List.sizeOf_lt_of_mem isPart
        omega
  | _ => cases present

theorem Item.sizeOf_lt_of_mem_inner {scope : ModuleScope} {item : Item}
    {visit : ModuleScope × Item} (present : visit ∈ item.inner scope) :
    sizeOf visit.2 < sizeOf item := by
  have inCodes (inside : visit ∈ (item.codes.flatMap Code.items).map (fun nested =>
      (scope, nested))) : sizeOf visit.2 < sizeOf item := by
    obtain ⟨nested, isNested, rfl⟩ := List.mem_map.mp inside
    obtain ⟨code, isCode, inCode⟩ := List.mem_flatMap.mp isNested
    exact Nat.lt_trans (Code.sizeOf_lt_of_mem_items inCode) (Item.sizeOf_lt_of_mem_codes isCode)
  cases item with
  | inlineModule attributes name items =>
      cases items with
      | none => exact inCodes present
      | some items =>
          rw [Item.inner] at present
          split at present
          · cases present
          · obtain ⟨item, isItem, rfl⟩ := List.mem_map.mp present
            have smaller := List.sizeOf_lt_of_mem isItem
            rw [Item.inlineModule.sizeOf_spec, Option.some.sizeOf_spec]
            dsimp only
            omega
  | _ => exact inCodes present

/-- The item and all items inside, with what is in scope there, in the order of the walk. -/
def Item.visits (scope : ModuleScope) (item : Item) : List (ModuleScope × Item) :=
  (scope, item) ::
    (item.inner scope).attach.flatMap (fun visit => visit.val.2.visits visit.val.1)
termination_by sizeOf item
decreasing_by exact Item.sizeOf_lt_of_mem_inner visit.property

/-- What is gathered from all visits is that of the item itself and then that of the items right
inside. -/
theorem Item.flatMap_visits {β : Type} (own : ModuleScope × Item → List β) (scope : ModuleScope)
    (item : Item) :
    (item.visits scope).flatMap own = own (scope, item) ++
      (item.inner scope).flatMap (fun visit => (visit.2.visits visit.1).flatMap own) := by
  have unattached := List.flatMap_map Subtype.val
    (fun visit : ModuleScope × Item => visit.2.visits visit.1) (item.inner scope).attach
  rw [List.attach_map_subtype_val] at unattached
  rw [Item.visits, ← unattached, List.flatMap_cons, List.flatMap_assoc]

/-- The methods of an item and of all items inside. -/
def Item.methods (scope : ModuleScope) (item : Item) : List FoundMethod :=
  (item.visits scope).flatMap (fun visit => visit.2.ownMethods visit.1)

theorem Item.methods_eq (scope : ModuleScope) (item : Item) :
    item.methods scope = item.ownMethods scope ++
      (item.inner scope).flatMap (fun visit => visit.2.methods visit.1) :=
  Item.flatMap_visits (fun visit => visit.2.ownMethods visit.1) scope item

/-- All items of a file that defines the module. A file of test code is not looked into. -/
def SourceFile.visits (file : SourceFile) (module : List String) : List (ModuleScope × Item) :=
  if isTestCode file.attributes then []
  else
    ((Attribute.values file.attributes).flatMap Code.items ++ file.items).flatMap
      (Item.visits (.ofItems module file.items))

/-- The methods of a file that defines the module, in the order of the walk. -/
def SourceFile.methods (file : SourceFile) (module : List String) : List FoundMethod :=
  (file.visits module).flatMap (fun visit => visit.2.ownMethods visit.1)

/-- The methods that are counted for the class. -/
def SourceFile.methodsOf (file : SourceFile) (module : List String) (className : String) :
    List FoundMethod :=
  (file.methods module).filter (fun found => found.className == className)

/-! ### Brackets of the walk -/

/-- The events are those of a stream that has just these methods, each in its class. -/
def Holds (events : List Event) (methods : List FoundMethod) : Prop :=
  ∃ stream : Stream, events = stream.events ∧ ∀ className,
    stream.methodSpans className =
      (methods.filter (fun found => found.className == className)).map FoundMethod.span

namespace Holds

theorem nil : Holds [] [] :=
  ⟨[], rfl, fun _ => rfl⟩

theorem code {events : List Event} (allCode : ∀ event ∈ events, event.isCode = true) :
    Holds events [] := by
  induction events with
  | nil => exact nil
  | cons event rest ih =>
      obtain ⟨stream, same, spans⟩ := ih (fun other present => allCode other (.tail event present))
      have plain := Event.isPlain_of_isCode (allCode event (List.Mem.head rest))
      exact ⟨.plain event plain :: stream, congrArg (event :: ·) same, spans⟩

theorem append {first second : List Event} {methods others : List FoundMethod}
    (holdsFirst : Holds first methods) (holdsSecond : Holds second others) :
    Holds (first ++ second) (methods ++ others) := by
  obtain ⟨stream, rfl, spans⟩ := holdsFirst
  obtain ⟨later, rfl, laterSpans⟩ := holdsSecond
  refine ⟨stream ++ later, List.flatMap_append.symm, ?_⟩
  intro className
  rw [List.filter_append, List.map_append, ← spans, ← laterSpans]
  simp only [Stream.methodSpans, Stream.classSpans, List.filterMap_append, List.filter_append,
    List.flatMap_append]

theorem flatMap {β : Type} {items : List β} {events : β → List Event}
    {methods : β → List FoundMethod} (each : ∀ item ∈ items, Holds (events item) (methods item)) :
    Holds (items.flatMap events) (items.flatMap methods) := by
  induction items with
  | nil => exact nil
  | cons head rest ih =>
      rw [List.flatMap_cons, List.flatMap_cons]
      exact (each head (List.Mem.head rest)).append
        (ih (fun item present => each item (List.Mem.tail head present)))

/-- A class with its fields and methods. -/
theorem type (className : String) (fields : List String) {methods : List FoundMethod}
    (counted : ∀ found ∈ methods, found.className = className) :
    Holds (.enterClass className :: ((fields.map .field ++
      methods.flatMap (fun found => found.span.events)) ++ [.exitClass className])) methods := by
  let parts : List ClassPart := fields.map (fun field => .plain (.field field) rfl) ++
    methods.map (fun found => .method found.span)
  have fieldEvents : fields.flatMap (fun field => [Event.field field]) = fields.map .field :=
    List.map_eq_flatMap.symm
  have noMethods : (fields.map (fun field => ClassPart.plain (.field field) rfl)).filterMap
      ClassPart.method? = [] := by
    rw [List.filterMap_map]
    exact List.filterMap_eq_nil_iff.mpr (fun _ _ => rfl)
  have ownMethods : (methods.map (fun found => ClassPart.method found.span)).filterMap
      ClassPart.method? = methods.map FoundMethod.span := by
    rw [List.filterMap_map]
    exact congrFun List.filterMap_eq_map methods
  refine ⟨[.type ⟨className, parts⟩], ?_, ?_⟩
  · have partEvents : parts.flatMap ClassPart.events =
        fields.map .field ++ methods.flatMap (fun found => found.span.events) := by
      rw [List.flatMap_append, List.flatMap_map, List.flatMap_map, ← fieldEvents]
      rfl
    rw [← partEvents]
    exact (List.append_nil _).symm
  · intro other
    have spans : (ClassSpan.mk className parts).methods = methods.map FoundMethod.span := by
      rw [ClassSpan.methods, List.filterMap_append, noMethods, ownMethods]
      rfl
    rw [Stream.methodSpans_type, spans]
    by_cases named : className = other
    · have all : methods.filter (fun found => found.className == other) = methods :=
        List.filter_eq_self.mpr
          (fun found present => beq_iff_eq.mpr ((counted found present).trans named))
      rw [if_pos named, all]
      exact List.append_nil _
    · have noneOf : methods.filter (fun found => found.className == other) = [] :=
        List.filter_eq_nil_iff.mpr (fun found present same =>
          named ((counted found present).symm.trans (eq_of_beq same)))
      rw [if_neg named, noneOf]
      rfl

end Holds

theorem Method.walk_eq (scope : ModuleScope) (className : String) (traitName : Option String)
    (method : Method) :
    method.walk scope traitName = (FoundMethod.mk className traitName method).span.events := by
  obtain ⟨attributes, name, body⟩ := method
  rw [Method.walk, Code.walk_inMethod]
  rfl

theorem Method.walkImplemented_eq (scope : ModuleScope) (className : String)
    (traitName : Option String) (methods : List Method) :
    Method.walkImplemented scope traitName methods =
      ((methods.filter (fun method => !isTestCode method.attributes)).map
        (FoundMethod.mk className traitName)).flatMap (fun found => found.span.events) := by
  induction methods with
  | nil => rfl
  | cons head rest ih =>
      rw [Method.walkImplemented, ih, List.filter_cons]
      cases isTestCode head.attributes with
      | true => rfl
      | false => exact congrArg (· ++ _) (head.walk_eq scope className traitName)

theorem Method.walkDeclared_eq (scope : ModuleScope) (className : String) (methods : List Method) :
    Method.walkDeclared scope methods =
      (methods.map (FoundMethod.mk className none)).flatMap (fun found => found.span.events) := by
  induction methods with
  | nil => rfl
  | cons head rest ih =>
      rw [Method.walkDeclared, ih]
      exact congrArg (· ++ _) (head.walk_eq scope className none)

theorem Attribute.walkAll_eq (position : Position) (attributes : List Attribute) :
    Attribute.walkAll position attributes =
      (Attribute.values attributes).flatMap (Code.walk position) := by
  induction attributes with
  | nil => rfl
  | cons head rest ih =>
      obtain ⟨rooted, path, form⟩ := head
      rw [Attribute.walkAll, ih]
      cases form <;> rfl

/-! ### Walks of items -/

/-- How an item is walked: as a class with its methods, as code that may hold other items, or as the
items right inside, of which there may be none. -/
inductive Item.Walked (scope : ModuleScope) (item : Item) : Prop
  | asClass (className : String) (fields : List String) (alone : item.inner scope = [])
      (counted : ∀ found ∈ item.ownMethods scope, found.className = className)
      (walked : item.walk scope = .enterClass className :: ((fields.map .field ++
        (item.ownMethods scope).flatMap (fun found => found.span.events)) ++
          [.exitClass className]))
  | asCode (inside : item.inner scope =
        (item.codes.flatMap Code.items).map (fun nested => (scope, nested)))
      (noMethods : item.ownMethods scope = [])
      (walked : item.walk scope = item.codes.flatMap (Code.walk { scope }))
  | asInner (noMethods : item.ownMethods scope = [])
      (walked : item.walk scope =
        (item.inner scope).flatMap (fun visit => visit.2.walk visit.1))

theorem Item.walked (scope : ModuleScope) (item : Item) : item.Walked scope := by
  cases item with
  | typeDeclaration attributes name fields =>
      by_cases isTest : isTestCode attributes = true
      · exact .asInner rfl (by rw [Item.walk, if_pos isTest]; rfl)
      · refine .asClass (scope.declaredName name) fields rfl (fun _ isOwn => nomatch isOwn) ?_
        rw [Item.walk, if_neg isTest]
        change _ = Event.enterClass _ :: ((_ ++ []) ++ _)
        rw [List.append_nil]
  | implementation attributes owner traitName methods =>
      cases owner with
      | none => exact .asInner rfl rfl
      | some segments =>
          by_cases isTest : isTestCode attributes = true
          · have noMethods : (Item.implementation attributes (some segments) traitName
                methods).ownMethods scope = [] := if_pos isTest
            exact .asInner noMethods (by rw [Item.walk, if_pos isTest]; rfl)
          · have own : (Item.implementation attributes (some segments) traitName
                methods).ownMethods scope = _ := if_neg isTest
            refine .asClass (scope.className segments) [] rfl ?_ ?_
            · intro found isOwn
              rw [own] at isOwn
              obtain ⟨method, _, rfl⟩ := List.mem_map.mp isOwn
              rfl
            · rw [own, Item.walk, if_neg isTest,
                Method.walkImplemented_eq scope (scope.className segments)]
              rfl
  | traitDeclaration attributes name methods =>
      by_cases isTest : isTestCode attributes = true
      · have noMethods : (Item.traitDeclaration attributes name methods).ownMethods scope = [] :=
          if_pos isTest
        exact .asInner noMethods (by rw [Item.walk, if_pos isTest]; rfl)
      · have own : (Item.traitDeclaration attributes name methods).ownMethods scope = _ :=
          if_neg isTest
        refine .asClass (scope.declaredName name) [] rfl ?_ ?_
        · intro found isOwn
          rw [own] at isOwn
          obtain ⟨method, _, rfl⟩ := List.mem_map.mp isOwn
          rfl
        · rw [own, Item.walk, if_neg isTest,
            Method.walkDeclared_eq scope (scope.declaredName name)]
          rfl
  | inlineModule attributes name items =>
      cases items with
      | none =>
          refine .asInner rfl ?_
          rw [Item.walk, Item.walkModule, ite_self]
          rfl
      | some items =>
          refine .asInner rfl ?_
          rw [Item.walk, Item.inner]
          split
          · rfl
          · rw [Item.walkModule, Item.walkAll_eq_flatMap, List.flatMap_map]
  | use attributes tree =>
      refine .asCode rfl rfl ?_
      rw [Item.walk, Attribute.walkAll_eq]
      rfl
  | declaration attributes parts =>
      refine .asCode rfl rfl ?_
      rw [Item.walk, Attribute.walkAll_eq, Code.walkAll_eq_flatMap, ← List.flatMap_append]
      rfl
  | function _ | skipped => exact .asInner rfl rfl

/-- Code holds what its items hold. -/
theorem Code.holds_walk (scope : ModuleScope) (code : Code)
    (each : ∀ item ∈ code.items, Holds (item.walk scope) (item.methods scope)) :
    Holds (code.walk { scope }) (code.items.flatMap (Item.methods scope)) := by
  rw [Code.items, List.filterMap_eq_flatMap_toList, List.flatMap_assoc, Code.walk_eq_flatMap]
  refine Holds.flatMap (fun inner inside => ?_)
  cases isItem : inner.item? with
  | none => exact Holds.code (fun event present => Code.isCode_of_mem_ownEvents isItem present)
  | some nested =>
      cases inner with
      | item other =>
          cases isItem
          have holds := each nested (List.mem_filterMap.mpr ⟨_, inside, rfl⟩)
          rw [Option.toList_some, List.flatMap_singleton]
          exact holds
      | _ => cases isItem

/-- An item holds its own methods and those of the items inside. -/
theorem Item.holds_walk (scope : ModuleScope) (item : Item) :
    Holds (item.walk scope) (item.methods scope) := by
  have each (visit : ModuleScope × Item) (present : visit ∈ item.inner scope) :
      Holds (visit.2.walk visit.1) (visit.2.methods visit.1) :=
    visit.2.holds_walk visit.1
  rw [Item.methods_eq]
  cases item.walked scope with
  | asClass className fields alone counted walked =>
      rw [walked, alone, List.flatMap_nil, List.append_nil]
      exact Holds.type className fields counted
  | asCode inside noMethods walked =>
      rw [walked, noMethods, inside, List.nil_append, List.flatMap_map, List.flatMap_assoc]
      refine Holds.flatMap (fun code isCode => code.holds_walk scope (fun nested isNested => ?_))
      refine each (scope, nested) ?_
      rw [inside]
      exact List.mem_map_of_mem (List.mem_flatMap.mpr ⟨code, isCode, isNested⟩)
  | asInner noMethods walked =>
      rw [walked, noMethods, List.nil_append]
      exact Holds.flatMap each
termination_by sizeOf item
decreasing_by exact Item.sizeOf_lt_of_mem_inner present

/-- A file holds its methods. -/
theorem SourceFile.holds_walk (file : SourceFile) (module : List String) :
    Holds (file.walk module) (file.methods module) := by
  rw [SourceFile.walk, SourceFile.methods, SourceFile.visits]
  split
  · exact Holds.nil
  · dsimp only
    rw [Attribute.walkAll_eq, Item.walkAll_eq_flatMap, List.flatMap_assoc, List.flatMap_append,
      List.flatMap_assoc]
    refine Holds.append (Holds.flatMap (fun code _ => ?_)) (Holds.flatMap (fun item _ => ?_))
    · exact code.holds_walk _ (fun nested _ => nested.holds_walk _)
    · exact item.holds_walk _

namespace SourceFile

/-- The brackets that the walk reports for a class are those of its methods. -/
theorem holdsMethod_iff (file : SourceFile) (module : List String) (className name : String)
    (body : List Event) :
    HoldsMethod (file.walk module) className name body ↔
      ∃ found ∈ file.methodsOf module className, found.name = name ∧ found.body.report = body := by
  obtain ⟨stream, same, spans⟩ := file.holds_walk module
  rw [same, stream.holdsMethod_iff, spans]
  simp only [List.mem_map, exists_exists_and_eq_and]
  rfl

theorem exists_holdsMethod_iff (file : SourceFile) (module : List String) (className : String) :
    (∃ name body, HoldsMethod (file.walk module) className name body) ↔
      file.methodsOf module className ≠ [] := by
  simp only [holdsMethod_iff]
  constructor
  · rintro ⟨_, _, found, present, _⟩
    exact List.ne_nil_of_mem present
  · intro inhabited
    obtain ⟨found, present⟩ := List.exists_mem_of_ne_nil _ inhabited
    exact ⟨_, _, found, present, rfl, rfl⟩

/-- A class is measured exactly if the walk enters a method of it, if only classes with methods are
measured. -/
theorem exists_measured_iff {α : Type} {file : SourceFile} {module : List String}
    {className : String} {measurements : List (Measurement α)} {whole : Measurement α}
    (ofClass : measurements.filter (fun measured => measured.name == className) =
      if file.methodsOf module className = [] then [] else [whole]) :
    (∃ measured ∈ measurements, measured.name = className) ↔
      ∃ name body, HoldsMethod (file.walk module) className name body := by
  rw [exists_holdsMethod_iff]
  constructor
  · rintro ⟨measured, present, named⟩ none
    rw [if_pos none] at ofClass
    exact List.filter_eq_nil_iff.mp ofClass measured present (beq_iff_eq.mpr named)
  · intro inhabited
    rw [if_neg inhabited] at ofClass
    have present := List.mem_filter.mp (ofClass ▸ List.mem_singleton_self _)
    exact ⟨_, present.1, eq_of_beq present.2⟩

end SourceFile

end Rust

end CrateMetrics
