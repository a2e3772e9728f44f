/-
The decisions of a file, counted in its syntax tree. The complexity of a method is one and the
decisions of all expressions in its body; what is measured of a class is the mean over its methods,
wherever in the file they are found. Decisions outside of methods count nowhere.
-/

import CrateMetrics.Proofs.Complexity
import CrateMetrics.Proofs.RollUp.Exact
import CrateMetrics.Proofs.Walk.Methods
import CrateMetrics.SourceUnit

namespace CrateMetrics.Rust

def Arm.isGuarded : Arm → Bool
  | .mk _ _ guard _ => guard.isSome

/-- The decisions that an expression itself makes: one for `if`, `while`, `for`, `loop`, `&&`, `||`
and `?`, and in a `match` the arms after the first one and the guards. -/
def Code.ownDecisions : Code → Nat
  | .conditional _ _ _ _ | .whileLoop _ _ _ | .forLoop _ _ _ _ | .endlessLoop _ _ => 1
  | .binary symbol _ _ => if symbol = "&&" ∨ symbol = "||" then 1 else 0
  | .propagation _ _ => 1
  | .select _ arms => (arms.length - 1) + arms.countP Arm.isGuarded
  | _ => 0

/-- The decisions of all expressions in the body of a method. Closures, blocks and the arguments of
macros belong to it, nested items do not. -/
def Code.decisions (body : Code) : Nat :=
  ((body.expressions true).map Code.ownDecisions).sum

/-- One and the decisions of the method. -/
def FoundMethod.complexity (found : FoundMethod) : Nat :=
  1 + found.body.decisions

theorem countP_armDecisions (arms : List Arm) :
    (armDecisions arms).countP Event.isDecision =
      (arms.length - 1) + arms.countP Arm.isGuarded := by
  have all {β : Type} (kind : Decision) (items : List β) :
      (items.map (fun _ => Event.decision kind)).countP Event.isDecision = items.length := by
    rw [List.countP_map]
    exact List.countP_eq_length.mpr (fun _ _ => rfl)
  rw [armDecisions, List.countP_append, all, all, List.length_drop, List.countP_eq_length_filter]
  rfl

theorem countP_operatorDecision (symbol : String) :
    ((operatorDecision? symbol).toList.map Event.decision).countP Event.isDecision =
      if symbol = "&&" ∨ symbol = "||" then 1 else 0 := by
  unfold operatorDecision?
  by_cases isAnd : symbol = "&&"
  · rw [if_pos isAnd, if_pos (Or.inl isAnd)]
    rfl
  · by_cases isOr : symbol = "||"
    · rw [if_neg isAnd, if_pos isOr, if_pos (Or.inr isOr)]
      rfl
    · rw [if_neg isAnd, if_neg isOr, if_neg (not_or.mpr ⟨isAnd, isOr⟩)]
      rfl

/-- In a method, an expression reports the decisions that it makes. -/
theorem Code.countP_ownEvents {position : Position} (inMethod : position.inMethod = true)
    (code : Code) :
    (code.ownEvents position).countP Event.isDecision = code.ownDecisions := by
  cases code with
  | field _ base _ =>
      rw [Code.ownEvents]
      split
      · rfl
      · rfl
  | call _ callee _ =>
      rw [Code.ownEvents, List.countP_map]
      exact List.countP_eq_zero.mpr (fun _ _ => Bool.false_ne_true)
  | binary symbol _ _ => exact countP_operatorDecision symbol
  | select _ arms => exact countP_armDecisions arms
  | item nested =>
      rw [Code.ownEvents, if_pos inMethod]
      rfl
  | _ => rfl

theorem Code.countP_report (body : Code) :
    body.report.countP Event.isDecision = body.decisions := by
  rw [Code.report, Code.walk_eq_flatMap, List.countP_flatMap]
  exact congrArg List.sum (List.map_congr_left (fun code _ => code.countP_ownEvents rfl))

/-- Its own decisions and those of its parts. -/
theorem Code.decisions_eq (code : Code) :
    code.decisions = code.ownDecisions + ((code.parts true).map Code.decisions).sum := by
  rw [Code.decisions, Code.expressions_eq, List.map_cons, List.sum_cons, List.map_flatMap,
    List.flatMap_def, List.sum_flatten, List.map_map]
  rfl

/-- The decisions of what is read between commas, if the tokens read as expressions. -/
def macroDecisions (grammar : Syntax.Grammar) (content : List Token) : Nat :=
  match (Syntax.Parse.commaList (grammar.expression true)).run content with
  | some (operands, []) => (operands.map (fun operand => operand.code.decisions)).sum
  | _ => 0

theorem sum_macroArguments (grammar : Syntax.Grammar) (content : List Token) :
    ((Syntax.macroArguments grammar content).map Code.decisions).sum =
      macroDecisions grammar content := by
  unfold Syntax.macroArguments macroDecisions
  cases (Syntax.Parse.commaList (grammar.expression true)).run content with
  | none => rfl
  | some read =>
      obtain ⟨operands, left⟩ := read
      cases left with
      | nil =>
          dsimp only
          rw [List.map_map]
          rfl
      | cons _ _ => rfl

/-- A macro call counts as much as what its body reads as. -/
theorem run_macroBody (grammar : Syntax.Grammar) (bracket : Bracket) (content rest : List Token) :
    ∃ code, (Syntax.macroBody grammar).run (.group bracket content :: rest) =
        some ((bracket, code), rest) ∧
      code.decisions = macroDecisions grammar content := by
  let arguments := Syntax.macroArguments grammar content
  refine ⟨.macroCall [] arguments, rfl, ?_⟩
  have counted : (Code.macroCall [] arguments).decisions = (arguments.map Code.decisions).sum :=
    (Code.decisions_eq (.macroCall [] arguments)).trans (Nat.zero_add _)
  rw [counted, sum_macroArguments]

theorem FoundMethod.complexity_span (found : FoundMethod) :
    found.span.complexity = found.complexity :=
  congrArg (1 + ·) found.body.countP_report

namespace SourceFile

variable {α : Type} [Scalar α]

/-- The complexity of a class that has these methods. -/
def classComplexity (className : String) (methods : List FoundMethod) : ClassValue α :=
  Complexity.valueOf className (methods.map (fun found => (found.name, found.complexity)))

theorem filter_classValues (file : SourceFile) (module : List String) (className : String) :
    (Complexity.classValues (file.walk module) : List (ClassValue α)).filter
        (fun value => value.name == className) =
      if file.methodsOf module className = [] then []
      else [classComplexity className (file.methodsOf module className)] := by
  obtain ⟨stream, same, spans⟩ := file.holds_walk module
  have ofSpans : ((file.methodsOf module className).map FoundMethod.span).map
      (fun span => (span.name, span.complexity)) =
        (file.methodsOf module className).map (fun found => (found.name, found.complexity)) := by
    rw [List.map_map]
    exact List.map_congr_left (fun found _ => congrArg (found.name, ·) found.complexity_span)
  rw [same, Complexity.filter_classValues_events, spans]
  change (if (file.methodsOf module className).map FoundMethod.span = [] then []
    else [Complexity.valueOf className (((file.methodsOf module className).map FoundMethod.span).map
      (fun span => (span.name, span.complexity)))]) = _
  rw [ofSpans, classComplexity]
  exact if_congr List.map_eq_nil_iff rfl rfl

/-- There is one measurement for a class that has methods in the file, and none for any other. -/
theorem filter_classes_complexity (metric : Metric α) (file : SourceFile) (module : List String)
    (className : String) :
    ((Meter.mk .complexity metric).classes (file.walk module)).filter
        (fun measured => measured.name == className) =
      if file.methodsOf module className = [] then []
      else [(Meter.mk .complexity metric).classMeasurement
        (classComplexity className (file.methodsOf module className))] := by
  rw [Meter.filter_classes]
  change ((Complexity.classValues (file.walk module)).filter
    (fun value => value.name == className)).map _ = _
  rw [filter_classValues]
  split
  · rfl
  · rfl

theorem values_classMeasurement (meter : Meter α) (className : String)
    (methods : List FoundMethod) :
    (meter.classMeasurement (classComplexity className methods)).values =
      [meter.finalValue
        (Scalar.ofCount (methods.map FoundMethod.complexity).sum / Scalar.ofCount methods.length)
        methods.length] := by
  change [meter.finalValue (Scalar.ofCount ((methods.map _).map Prod.snd).sum /
    Scalar.ofCount (methods.map _).length) (methods.map _).length] = _
  rw [List.map_map, List.length_map]
  rfl

/-- A class is measured exactly if the walk enters a method of it. It is measured once: over its
methods, the mean of one and their decisions. A macro call has the decisions of the expressions
between commas that its body reads as. -/
theorem complexity_of_class (metric : Metric α) (file : SourceFile) (module : List String)
    (className : String) :
    let meter := Meter.mk .complexity metric
    let found := file.methodsOf module className
    (∃ measurements, meter.measure (file.walk module) = .ok measurements ∧
      ((∃ measured ∈ measurements, measured.name = className) ↔
        ∃ name body, HoldsMethod (file.walk module) className name body) ∧
      (∀ name body, HoldsMethod (file.walk module) className name body ↔
        ∃ method ∈ found, method.name = name ∧ method.body.report = body) ∧
      (measurements.filter (fun measured => measured.name == className)).map Measurement.values =
        if found = [] then []
        else [[meter.finalValue
          (Scalar.ofCount (found.map FoundMethod.complexity).sum / Scalar.ofCount found.length)
          found.length]]) ∧
      ∀ (grammar : Syntax.Grammar) (bracket : Bracket) (content rest : List Token),
        ∃ code, (Syntax.macroBody grammar).run (.group bracket content :: rest) =
            some ((bracket, code), rest) ∧
          code.decisions = macroDecisions grammar content := by
  intro meter found
  have ofClass := filter_classes_complexity metric file module className
  refine ⟨⟨_, meter.measure_eq _, exists_measured_iff ofClass,
    holdsMethod_iff file module className, ?_⟩, run_macroBody⟩
  rw [ofClass]
  split
  · rfl
  · exact congrArg (fun values => [values]) (values_classMeasurement meter className found)

/-- A method that decides in all ways there are. Its last macro call does not read as expressions,
and neither the function inside nor the constant belong to it. -/
def plotUnit : SourceUnit :=
  { name := "src/plot.rs"
    source := "const T: bool = a && b; impl Plot { fn draw() { if a && b || c {} while d {}
      for x in y {} loop {} match x { 0 => 1, 1 if a => 2, _ => 3 };
      let Some(z) = load()? else { loop {} }; || async { a && b };
      show!(if a {}, show!(a || b)); show!(if a => b); fn f() { if a {} } } }" }

/-- Complexity is to be no higher than ten. -/
def lowComplexity : Metric ℚ :=
  { name := "cyclomatic_complexity", limit := .atMost 10 }

/-- All forms of decisions are counted, in the method and in the arguments of its macro calls. -/
theorem plotUnit_complexity :
    ∃ file method, plotUnit.tree = .ok file ∧ file.methodsOf plotUnit.module "Plot" = [method] ∧
      method.body.decisions = 14 := by
  have shown : plotUnit.tree.toOption.map (fun file =>
      ((Meter.mk .complexity lowComplexity).measure (file.walk plotUnit.module)).toOption.map
        (fun measurements =>
          ((measurements.filter (fun measured => measured.name == "Plot")).map
            Measurement.values).map (List.map (fun value => (value.value, value.count))))) =
      some (some [[(15, 1)]]) := by
    decide +kernel
  cases parsed : plotUnit.tree with
  | error fault =>
      rw [parsed] at shown
      cases shown
  | ok file =>
      obtain ⟨⟨measurements, succeeds, _, _, values⟩, _⟩ :=
        complexity_of_class lowComplexity file plotUnit.module "Plot"
      rw [parsed] at shown
      change some (Option.map _ (Except.toOption (Meter.measure _ _))) = _ at shown
      rw [succeeds] at shown
      change some (some (List.map _ (List.map _ _))) = _ at shown
      rw [values] at shown
      split at shown
      · cases shown
      · obtain ⟨mean, single⟩ : (_ : ℚ) = 15 ∧ _ = 1 := Prod.mk.inj
          (List.cons.inj (List.cons.inj (Option.some.inj (Option.some.inj shown))).1).1
        obtain ⟨method, only⟩ := List.length_eq_one_iff.mp single
        rw [only] at mean
        change ((([method].map FoundMethod.complexity).sum : ℕ) : ℚ) / ((1 : ℕ) : ℚ) = 15 at mean
        rw [Nat.cast_one, div_one, List.map_singleton, List.sum_singleton] at mean
        have counted : 1 + method.body.decisions = 15 := by exact_mod_cast mean
        exact ⟨file, method, rfl, only, Nat.add_left_cancel counted⟩

end SourceFile

end CrateMetrics.Rust
