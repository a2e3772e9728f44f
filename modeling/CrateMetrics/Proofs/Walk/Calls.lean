/-
The calls of a file. Each call that the walk reports is made by an expression of the file, and its
signature tells it apart from all others as long as names are written without separators, as
identifiers are. So the response of a class is the number of different calls: its own methods and
what is called in them, wherever in the file they are found.
-/

import CrateMetrics.Proofs.QualifiedNames
import CrateMetrics.Proofs.Response
import CrateMetrics.Proofs.RollUp.Exact
import CrateMetrics.Proofs.Walk.Methods
import Mathlib.Data.Set.Card

namespace CrateMetrics

theorem Text.IsWord.noColon {name : String} (word : Text.IsWord name) : ':' ∉ name.toList :=
  fun present => Bool.false_ne_true (word ':' present).symm

namespace Rust

/-! ### Calls of expressions -/

/-- The call that an expression itself makes. -/
def Code.ownCall? : Code → Option Invocation
  | .call _ callee _ => callee.invocation?
  | .methodCall _ receiver name _ => some ⟨if receiver.isSelf then .ownType else .value, name⟩
  | _ => none

/-- The names that the call of an expression is written with. -/
def Code.calledNames : Code → List String
  | .call _ callee _ => callee.pathNames?.getD []
  | .methodCall _ _ name _ => [name]
  | _ => []

theorem Code.ownCall?_of_mem_ownEvents {position : Position} {code : Code} {call : Invocation}
    (noItem : code.item? = none) (present : .call call ∈ code.ownEvents position) :
    code.ownCall? = some call := by
  cases code with
  | call _ callee _ =>
      obtain ⟨made, isMade, same⟩ := List.mem_map.mp present
      cases same
      exact Option.mem_toList.mp isMade
  | methodCall _ receiver name _ =>
      cases List.mem_singleton.mp present
      rfl
  | field _ base _ =>
      rw [Code.ownEvents] at present
      split at present
      · cases List.mem_singleton.mp present
      · cases present
  | conditional | whileLoop | forLoop | endlessLoop | propagation =>
      cases List.mem_singleton.mp present
  | binary symbol _ _ =>
      obtain ⟨_, _, same⟩ := List.mem_map.mp present
      cases same
  | select _ arms =>
      rcases List.mem_append.mp present with isArm | isGuard
      · obtain ⟨_, _, same⟩ := List.mem_map.mp isArm
        cases same
      · obtain ⟨_, _, same⟩ := List.mem_map.mp isGuard
        cases same
  | item _ => cases noItem
  | _ => cases present

/-- A path of words is written like the own type only if it is the own type. -/
private theorem qualify_ne_own {owner : List String} (words : ∀ name ∈ owner, Text.IsWord name)
    (other : owner ≠ ["Self"]) : Text.qualify owner ≠ "Self" := by
  intro same
  cases owner with
  | nil => exact absurd same (by decide)
  | cons head rest =>
      have isOwn : Text.qualify ["Self"] = "Self" := by decide
      have noColons : ∀ name ∈ ["Self"], ':' ∉ name.toList := by decide
      exact other (Text.qualify_injective (List.cons_ne_nil head rest) (List.cons_ne_nil _ _)
        (fun name present => (words name present).noColon) noColons (same.trans isOwn.symm))

/-- The calls of expressions are legible if they are written with words. -/
theorem Code.legible_of_ownCall? {code : Code} {call : Invocation}
    (words : ∀ name ∈ code.calledNames, Text.IsWord name) (made : code.ownCall? = some call) :
    call.Legible := by
  cases code with
  | methodCall _ receiver name _ =>
      cases made
      refine ⟨words name (List.mem_singleton_self name), ?_⟩
      dsimp only
      split
      · exact Receiver.noConfusion
      · exact Receiver.noConfusion
  | call _ callee _ =>
      change (callee.pathNames?.bind fun names => names.getLast?.bind fun name =>
        if Text.startsUppercase name then none
        else some (Invocation.mk (if names.dropLast = ["Self"] then .ownType
          else .path (Text.qualify names.dropLast)) name)) = some call at made
      obtain ⟨names, isPath, made⟩ := Option.bind_eq_some_iff.mp made
      obtain ⟨name, isLast, made⟩ := Option.bind_eq_some_iff.mp made
      have allWords : ∀ name ∈ names, Text.IsWord name := by
        intro name present
        refine words name ?_
        change name ∈ callee.pathNames?.getD []
        rw [isPath]
        exact present
      split at made
      · cases made
      · cases made
        refine ⟨allWords name (List.mem_of_getLast? isLast), ?_⟩
        dsimp only
        split
        · exact Receiver.noConfusion
        · rename_i other
          intro same
          exact qualify_ne_own
            (fun name present => allWords name (List.dropLast_subset names present)) other
            (Receiver.path.inj same)
  | _ => cases made

/-! ### Calls of items -/

/-- The expressions that are walked for an item, without those of items inside. -/
def Item.ownExpressions (scope : ModuleScope) (item : Item) : List Code :=
  item.codes.flatMap (Code.expressions false) ++
    (item.ownMethods scope).flatMap (fun found => found.body.expressions true)

/-- The expressions of an item and of all items inside. -/
def Item.expressions (scope : ModuleScope) (item : Item) : List Code :=
  (item.visits scope).flatMap (fun visit => visit.2.ownExpressions visit.1)

theorem Item.expressions_eq (scope : ModuleScope) (item : Item) :
    item.expressions scope = item.ownExpressions scope ++
      (item.inner scope).flatMap (fun visit => visit.2.expressions visit.1) :=
  Item.flatMap_visits (fun visit => visit.2.ownExpressions visit.1) scope item

theorem Code.exists_of_call_mem_report {body : Code} {call : Invocation}
    (present : .call call ∈ body.report) :
    ∃ code ∈ body.expressions true, code.ownCall? = some call := by
  rw [Code.report, Code.walk_eq_flatMap] at present
  obtain ⟨code, inside, isOwn⟩ := List.mem_flatMap.mp present
  refine ⟨code, inside, Code.ownCall?_of_mem_ownEvents ?_ isOwn⟩
  cases code with
  | item nested => cases isOwn
  | _ => rfl

/-- A call in the bracket of a class is made in one of its methods. -/
private theorem exists_of_call_mem_class {className : String} {fields : List String}
    {methods : List FoundMethod} {call : Invocation}
    (present : Event.call call ∈ .enterClass className :: ((fields.map .field ++
      methods.flatMap (fun found => found.span.events)) ++ [.exitClass className])) :
    ∃ code ∈ methods.flatMap (fun found => found.body.expressions true),
      code.ownCall? = some call := by
  simp only [List.mem_cons, reduceCtorEq, List.mem_append, List.mem_map, and_false, exists_false,
    List.mem_flatMap, false_or, List.not_mem_nil, or_false] at present
  obtain ⟨found, isMethod, inBracket⟩ := present
  have inBody : .call call ∈ found.body.report := by
    rcases List.mem_cons.mp inBracket with isEnter | later
    · cases isEnter
    · rcases List.mem_append.mp later with inBody | isExit
      · exact inBody
      · cases List.mem_singleton.mp isExit
  obtain ⟨code, inside, made⟩ := Code.exists_of_call_mem_report inBody
  exact ⟨code, List.mem_flatMap.mpr ⟨found, isMethod, inside⟩, made⟩

/-- A call in code outside of methods is made by the code or in the items inside. -/
private theorem Code.exists_of_call_mem_walk {scope : ModuleScope} {code : Code}
    {call : Invocation} (present : .call call ∈ code.walk { scope }) :
    (∃ inner ∈ code.expressions false, inner.ownCall? = some call) ∨
      ∃ nested ∈ code.items, .call call ∈ nested.walk scope := by
  rw [Code.walk_eq_flatMap] at present
  obtain ⟨inner, inside, isOwn⟩ := List.mem_flatMap.mp present
  cases isItem : inner.item? with
  | none => exact Or.inl ⟨inner, inside, Code.ownCall?_of_mem_ownEvents isItem isOwn⟩
  | some nested =>
      cases inner with
      | item other =>
          cases isItem
          exact Or.inr ⟨nested, List.mem_filterMap.mpr ⟨_, inside, rfl⟩, isOwn⟩
      | _ => cases isItem

/-- The calls of an item are made by its expressions. -/
theorem Item.exists_of_call_mem_walk (scope : ModuleScope) (item : Item) {call : Invocation}
    (present : .call call ∈ item.walk scope) :
    ∃ code ∈ item.expressions scope, code.ownCall? = some call := by
  rw [Item.expressions_eq]
  have ofInner (visit : ModuleScope × Item) (isInner : visit ∈ item.inner scope)
      (inside : .call call ∈ visit.2.walk visit.1) :
      ∃ code ∈ item.ownExpressions scope ++
        (item.inner scope).flatMap (fun visit => visit.2.expressions visit.1),
        code.ownCall? = some call := by
    obtain ⟨code, isExpression, makes⟩ := visit.2.exists_of_call_mem_walk visit.1 inside
    exact ⟨code, List.mem_append_right _ (List.mem_flatMap.mpr ⟨visit, isInner, isExpression⟩),
      makes⟩
  cases item.walked scope with
  | asClass className fields _ _ walked =>
      rw [walked] at present
      obtain ⟨code, inBody, makes⟩ := exists_of_call_mem_class present
      exact ⟨code, List.mem_append_left _ (List.mem_append_right _ inBody), makes⟩
  | asCode inside _ walked =>
      rw [walked] at present
      obtain ⟨code, isCode, inCode⟩ := List.mem_flatMap.mp present
      rcases Code.exists_of_call_mem_walk inCode with
        ⟨inner, isPart, makes⟩ | ⟨nested, isItem, inItem⟩
      · have isOwn := List.mem_flatMap.mpr ⟨code, isCode, isPart⟩
        exact ⟨inner, List.mem_append_left _ (List.mem_append_left _ isOwn), makes⟩
      · refine ofInner (scope, nested) ?_ inItem
        rw [inside]
        exact List.mem_map_of_mem (List.mem_flatMap.mpr ⟨code, isCode, isItem⟩)
  | asInner _ walked =>
      rw [walked] at present
      obtain ⟨visit, isInner, inside⟩ := List.mem_flatMap.mp present
      exact ofInner visit isInner inside
termination_by sizeOf item
decreasing_by exact Item.sizeOf_lt_of_mem_inner isInner

namespace SourceFile

/-- All expressions that are walked in a file. -/
def expressions (file : SourceFile) (module : List String) : List Code :=
  if isTestCode file.attributes then []
  else
    (Attribute.values file.attributes).flatMap (Code.expressions false) ++
      (file.visits module).flatMap (fun visit => visit.2.ownExpressions visit.1)

/-- The names that methods and calls are written with. -/
def callNames (file : SourceFile) (module : List String) : List String :=
  (file.methods module).map (fun found => found.method.name) ++
    (file.expressions module).flatMap Code.calledNames

/-- Methods and calls are written with words, as all are whose names are identifiers. -/
def Spelled (file : SourceFile) (module : List String) : Prop :=
  ∀ name ∈ file.callNames module, Text.IsWord name

/-- The calls that the walk reports are made by expressions. -/
theorem exists_of_call_mem_walk {file : SourceFile} {module : List String} {call : Invocation}
    (present : .call call ∈ file.walk module) :
    ∃ code ∈ file.expressions module, code.ownCall? = some call := by
  rw [SourceFile.walk] at present
  rw [expressions, visits]
  split at present
  · cases present
  · rename_i counted
    dsimp only at present
    rw [Attribute.walkAll_eq, Item.walkAll_eq_flatMap] at present
    rw [if_neg counted, if_neg counted, List.flatMap_assoc]
    have ofItem {item : Item} (inside : .call call ∈ item.walk (.ofItems module file.items))
        (isRoot : item ∈ (Attribute.values file.attributes).flatMap Code.items ++ file.items) :
        ∃ code ∈ (Attribute.values file.attributes).flatMap (Code.expressions false) ++
          ((Attribute.values file.attributes).flatMap Code.items ++ file.items).flatMap
            (Item.expressions (.ofItems module file.items)), code.ownCall? = some call := by
      obtain ⟨code, isExpression, makes⟩ := item.exists_of_call_mem_walk _ inside
      exact ⟨code,
        List.mem_append_right _ (List.mem_flatMap.mpr ⟨item, isRoot, isExpression⟩), makes⟩
    rcases List.mem_append.mp present with inValues | inItems
    · obtain ⟨value, isValue, inValue⟩ := List.mem_flatMap.mp inValues
      rcases Code.exists_of_call_mem_walk inValue with
        ⟨inner, isPart, makes⟩ | ⟨nested, isItem, inItem⟩
      · exact ⟨inner,
          List.mem_append_left _ (List.mem_flatMap.mpr ⟨value, isValue, isPart⟩), makes⟩
      · exact ofItem inItem
          (List.mem_append_left _ (List.mem_flatMap.mpr ⟨value, isValue, isItem⟩))
    · obtain ⟨item, isItem, inItem⟩ := List.mem_flatMap.mp inItems
      exact ofItem inItem (List.mem_append_right _ isItem)

/-- The expressions of methods are among those of the file. -/
theorem mem_expressions_of_method {file : SourceFile} {module : List String}
    {found : FoundMethod} (isMethod : found ∈ file.methods module) {code : Code}
    (inBody : code ∈ found.body.expressions true) : code ∈ file.expressions module := by
  obtain ⟨visit, isVisit, isOwn⟩ := List.mem_flatMap.mp isMethod
  rw [expressions]
  split
  · rename_i isTest
    rw [visits, if_pos isTest] at isVisit
    cases isVisit
  · exact List.mem_append_right _ (List.mem_flatMap.mpr ⟨visit, isVisit,
      List.mem_append_right _ (List.mem_flatMap.mpr ⟨found, isOwn, inBody⟩)⟩)

end SourceFile

theorem FoundMethod.bareName_name (found : FoundMethod)
    (noColon : ':' ∉ found.method.name.toList) :
    Text.bareName found.name = found.method.name := by
  unfold FoundMethod.name methodName
  split
  · exact Text.bareName_of_noColon noColon
  · exact Text.bareName_qualify _ noColon

namespace SourceFile.Spelled

variable {file : SourceFile} {module : List String} (spelled : file.Spelled module)

include spelled

private theorem legible_of_ownCall? {code : Code} {call : Invocation}
    (isExpression : code ∈ file.expressions module) (makes : code.ownCall? = some call) :
    call.Legible :=
  Code.legible_of_ownCall? (fun name isCalled => spelled name
    (List.mem_append_right _ (List.mem_flatMap.mpr ⟨code, isExpression, isCalled⟩))) makes

/-- The calls that the walk reports are legible. -/
theorem legible_of_mem_walk {call : Invocation} (present : .call call ∈ file.walk module) :
    call.Legible := by
  obtain ⟨code, isExpression, makes⟩ := exists_of_call_mem_walk present
  exact spelled.legible_of_ownCall? isExpression makes

/-- The calls that a method adds to the response of its class are legible. -/
theorem legible_of_mem_responses {found : FoundMethod} (isMethod : found ∈ file.methods module)
    {call : Invocation} (isResponse : call ∈ found.span.responses) : call.Legible := by
  rcases MethodSpan.mem_responses_iff.mp isResponse with rfl | inReport
  · have word : Text.IsWord found.method.name :=
      spelled _ (List.mem_append_left _ (List.mem_map_of_mem isMethod))
    have bare : Text.bareName found.span.name = found.method.name :=
      found.bareName_name word.noColon
    rw [bare]
    exact ⟨word, Receiver.noConfusion⟩
  · obtain ⟨code, inside, makes⟩ := Code.exists_of_call_mem_report inReport
    exact spelled.legible_of_ownCall? (mem_expressions_of_method isMethod inside) makes

end SourceFile.Spelled

namespace SourceFile

/-- The calls that a class responds with, told from the events of a walk: its own methods, and what
is called in their brackets. -/
def responses (events : List Event) (className : String) : Set Invocation :=
  { call | ∃ name body, HoldsMethod events className name body ∧
    (call = ⟨.ownType, Text.bareName name⟩ ∨ .call call ∈ body) }

theorem mem_responses_iff (file : SourceFile) (module : List String) (className : String)
    (call : Invocation) :
    call ∈ responses (file.walk module) className ↔
      call ∈ ((file.methodsOf module className).map FoundMethod.span).flatMap
        MethodSpan.responses := by
  rw [List.mem_flatMap]
  constructor
  · rintro ⟨name, body, holds, isResponse⟩
    obtain ⟨found, isMethod, rfl, rfl⟩ := (holdsMethod_iff file module className name body).mp holds
    exact ⟨found.span, List.mem_map_of_mem isMethod, MethodSpan.mem_responses_iff.mpr isResponse⟩
  · rintro ⟨span, isSpan, isResponse⟩
    obtain ⟨found, isMethod, rfl⟩ := List.mem_map.mp isSpan
    exact ⟨found.name, found.body.report,
      (holdsMethod_iff file module className _ _).mpr ⟨found, isMethod, rfl, rfl⟩,
      MethodSpan.mem_responses_iff.mp isResponse⟩

/-- Signatures do not merge calls of a class. -/
theorem card_signatures {file : SourceFile} {module : List String} (spelled : file.Spelled module)
    (className : String) :
    ((((file.methodsOf module className).map FoundMethod.span).flatMap
      MethodSpan.responses).map Invocation.signature).toFinset.card =
        (responses (file.walk module) className).ncard := by
  let calls := ((file.methodsOf module className).map FoundMethod.span).flatMap MethodSpan.responses
  have legible (call : Invocation) (isResponse : call ∈ calls) : call.Legible := by
    obtain ⟨span, isSpan, isOwn⟩ := List.mem_flatMap.mp isResponse
    obtain ⟨found, isMethod, rfl⟩ := List.mem_map.mp isSpan
    exact spelled.legible_of_mem_responses (List.mem_of_mem_filter isMethod) isOwn
  have same : responses (file.walk module) className = (calls.toFinset : Set Invocation) := by
    ext call
    rw [mem_responses_iff, List.coe_toFinset, Set.mem_ofPred_eq]
  have distinct : Set.InjOn Invocation.signature (calls.toFinset : Set Invocation) := by
    refine Invocation.signature_injOn.mono (fun call present => legible call ?_)
    exact List.mem_toFinset.mp present
  rw [same, Set.ncard_coe_finset, ← Finset.card_image_of_injOn distinct]
  exact congrArg Finset.card (Finset.ext (fun _ => by simp [calls]))

variable {α : Type} [Scalar α]

/-- There is one measurement for a class that has methods in the file, and none for any other. -/
theorem filter_classes_response (metric : Metric α) {file : SourceFile} {module : List String}
    (spelled : file.Spelled module) (className : String) :
    ((Meter.mk .response metric).classes (file.walk module)).filter
        (fun measured => measured.name == className) =
      if file.methodsOf module className = [] then []
      else [(Meter.mk .response metric).classMeasurement
        { name := className
          value := Scalar.ofCount (responses (file.walk module) className).ncard
          count := 1 }] := by
  have distinct := card_signatures spelled className
  obtain ⟨stream, same, spans⟩ := file.holds_walk module
  rw [← distinct, Meter.filter_classes, same]
  change ((Response.classValues stream.events).filter (fun value => value.name == className)).map _ = _
  rw [Response.filter_classValues_events, spans]
  change List.map _ (if (file.methodsOf module className).map FoundMethod.span = [] then []
    else [Response.valueOf className ((file.methodsOf module className).map FoundMethod.span)]) = _
  by_cases none : file.methodsOf module className = []
  · rw [if_pos none, none]
    rfl
  · rw [if_neg none, if_neg (fun empty => none (List.map_eq_nil_iff.mp empty))]
    rfl

/-- A class has a response exactly if the walk enters a method of it. The response is measured once,
as one element: it is the number of different calls, of the methods of the class and of what is
called in them. No two calls of any walks are taken for each other. -/
theorem response_of_class (metric : Metric α) {file : SourceFile} {module : List String}
    (spelled : file.Spelled module) (className : String) :
    let meter := Meter.mk .response metric
    (∃ measurements, meter.measure (file.walk module) = .ok measurements ∧
      ((∃ measured ∈ measurements, measured.name = className) ↔
        ∃ name body, HoldsMethod (file.walk module) className name body) ∧
      (measurements.filter (fun measured => measured.name == className)).map Measurement.values =
        if file.methodsOf module className = [] then []
        else [[meter.finalValue
          (Scalar.ofCount (responses (file.walk module) className).ncard) 1]]) ∧
      Set.InjOn Invocation.signature { call | ∃ other : SourceFile, ∃ path,
        other.Spelled path ∧ .call call ∈ other.walk path } := by
  intro meter
  have ofClass := filter_classes_response metric spelled className
  refine ⟨⟨_, meter.measure_eq _, exists_measured_iff ofClass, ?_⟩, ?_⟩
  · rw [ofClass]
    split
    · rfl
    · rfl
  · refine Invocation.signature_injOn.mono ?_
    rintro call ⟨other, path, otherSpelled, present⟩
    exact otherSpelled.legible_of_mem_walk present

/-- A type with one method, which calls another one in two ways, and a function. -/
def plotFile : SourceFile :=
  { attributes := []
    items := [.implementation [] (some ["Plot"]) none
      [.mk [] "draw" (.compound
        [.methodCall [] (.selfValue []) "scale" [], .call [] (.path ["Self", "scale"] []) [],
          .call [] (.path ["clear"] []) []])]] }

/-- Responses are to be no more than fifty. -/
def fewResponses : Metric ℚ :=
  { name := "response_for_class", limit := .atMost 50 }

/-- The method itself, the one it calls in two ways, and the function. -/
theorem plotFile_responses :
    plotFile.Spelled [] ∧ (responses (plotFile.walk []) "Plot").ncard = 3 := by
  have visited : plotFile.visits [] =
      plotFile.items.map (ModuleScope.ofItems [] plotFile.items, ·) := by
    change Item.visits _ _ ++ [] = _
    rw [Item.visits]
    rfl
  have counted : isTestCode [] = false := rfl
  have names : plotFile.callNames [] = ["draw", "scale", "Self", "scale", "clear"] := by
    rw [callNames, methods, SourceFile.expressions, visited]
    simp [plotFile, counted, Item.codes, Item.ownMethods, Item.ownExpressions, FoundMethod.body,
      Method.name, Method.body, Method.attributes, Attribute.values, Code.expressions_eq,
      Code.parts, Code.calledNames, Code.pathNames?]
  have spelled : plotFile.Spelled [] := by
    unfold Spelled
    rw [names]
    decide
  obtain ⟨⟨measurements, succeeds, _, ofClass⟩, _⟩ :=
    response_of_class fewResponses spelled "Plot"
  have shown : ((Meter.mk .response fewResponses).measure (plotFile.walk [])).toOption.map
      (fun measurements => ((measurements.filter (fun measured => measured.name == "Plot")).map
        Measurement.values).map (List.map MetricValue.value)) = some [[3]] := by
    decide +kernel
  rw [succeeds] at shown
  change some (List.map _ (List.map _ _)) = _ at shown
  rw [ofClass, Option.some.injEq] at shown
  split at shown
  · cases shown
  · have value : ((responses (plotFile.walk []) "Plot").ncard : ℚ) = 3 :=
      (List.cons.inj (List.cons.inj shown).1).1
    exact ⟨spelled, by exact_mod_cast value⟩

end SourceFile

end Rust

end CrateMetrics
