/-
The complexity of classes, told from a stream: every bracket of a method counts with one and its
decisions. Decisions elsewhere are not counted.
-/

import CrateMetrics.Complexity
import CrateMetrics.Proofs.Tallying
import Mathlib.Algebra.Order.Ring.Nat

namespace CrateMetrics

namespace Event

def isDecision : Event → Bool
  | .decision _ => true
  | _ => false

end Event

/-- One and the decisions in the bracket of the method. -/
def MethodSpan.complexity (span : MethodSpan) : Nat :=
  1 + span.body.countP Event.isDecision

namespace Complexity

/-- What a part of the bracket of a class adds to the methods. -/
def changePart : ClassPart → List (String × Nat) → List (String × Nat)
  | .plain _ _ => id
  | .method span => fun methods => methods ++ [(span.name, span.complexity)]

private theorem step_plain (table : ClassTable (List (String × Nat))) (event : Event)
    (isPlain : event.isPlain = true) : Tally.step ⟨table, none⟩ event = ⟨table, none⟩ := by
  cases event with
  | field _ | decision _ | call _ | access _ => rfl
  | enterClass _ | exitClass _ | enterMethod _ | exitMethod _ => cases isPlain

private theorem foldl_step_body (body : List Event)
    (plain : ∀ event ∈ body, event.isPlain = true) (table : ClassTable (List (String × Nat)))
    (name : String) (paths : Nat) :
    body.foldl Tally.step ⟨table, some (name, paths)⟩ =
      ⟨table, some (name, paths + body.countP Event.isDecision)⟩ := by
  induction body generalizing paths with
  | nil => rfl
  | cons event rest ih =>
      have later := ih (fun other present => plain other (List.Mem.tail event present))
      rw [List.foldl_cons, List.countP_cons]
      cases event with
      | decision kind =>
          change rest.foldl Tally.step ⟨table, some (name, paths + 1)⟩ = _
          rw [later]
          simp only [Event.isDecision, if_true, Nat.add_assoc, Nat.add_comm 1]
      | field _ | call _ | access _ => exact later paths
      | enterClass _ | exitClass _ | enterMethod _ | exitMethod _ =>
          cases plain _ (List.Mem.head rest)

private theorem foldl_step_part (table : ClassTable (List (String × Nat))) (part : ClassPart) :
    part.events.foldl Tally.step ⟨table, none⟩ = ⟨table.modify (changePart part), none⟩ := by
  cases part with
  | plain event isPlain =>
      change Tally.step ⟨table, none⟩ event = ⟨table.modify id, none⟩
      rw [step_plain table event isPlain, table.modify_id]
  | method span =>
      change (Event.enterMethod span.name :: span.body ++ [Event.exitMethod span.name]).foldl Tally.step
        ⟨table, none⟩ = _
      rw [List.cons_append, List.foldl_cons, List.foldl_append]
      change [Event.exitMethod span.name].foldl Tally.step
        (span.body.foldl Tally.step ⟨table, some (span.name, 1)⟩) = _
      rw [foldl_step_body span.body span.plain]
      rfl

private theorem tallies_step : Tallies Tally.step (fun table => ⟨table, none⟩) [] changePart where
  enterClass _ _ := rfl
  exitClass _ _ := rfl
  part table _ part _ := foldl_step_part table part
  plain table event _ isPlain := step_plain table event isPlain

private theorem applyAll_changePart (parts : List ClassPart) (methods : List (String × Nat)) :
    ClassPart.applyAll changePart parts methods =
      methods ++ (parts.filterMap ClassPart.method?).map
        (fun span => (span.name, span.complexity)) := by
  induction parts generalizing methods with
  | nil => exact (List.append_nil methods).symm
  | cons part rest ih =>
      change ClassPart.applyAll changePart rest (changePart part methods) = _
      rw [ih]
      cases part with
      | plain _ _ => rfl
      | method span => exact List.append_assoc methods [(span.name, span.complexity)] _

/-- Each class has the brackets of its methods, in the order of the stream. -/
theorem methodsByClass_events (stream : Stream) :
    methodsByClass stream.events = ClassTable.tabulate stream.classNames (fun name =>
      (stream.methodSpans name).map (fun span => (span.name, span.complexity))) := by
  obtain ⟨table, read, entries⟩ := tallies_step.exists_table stream
  have data (name : String) : ClassPart.applyAll changePart (stream.parts name) [] =
      (stream.methodSpans name).map (fun span => (span.name, span.complexity)) := by
    rw [applyAll_changePart, stream.filterMap_parts, List.nil_append]
  unfold methodsByClass
  rw [show stream.events.foldl Tally.step {} = _ from read, entries, funext data]

variable {α : Type} [Scalar α]

/-- The value of a class whose methods have the names and complexities. -/
def valueOf (className : String) (methods : List (String × Nat)) : ClassValue α :=
  { name := className
    value := Scalar.ofCount (methods.map Prod.snd).sum / Scalar.ofCount methods.length
    count := methods.length
    methods := methods.map (fun method => (method.1, Scalar.ofCount method.2)) }

private theorem classValues_eq (events : List Event) :
    (classValues events : List (ClassValue α)) =
      ((methodsByClass events).filter (fun entry => !entry.2.isEmpty)).map
        (fun entry => valueOf entry.1 entry.2) := by
  unfold classValues
  refine List.map_congr_left ?_
  intro entry _
  have total : entry.2.foldl (fun total method => total + method.2) 0 =
      (entry.2.map Prod.snd).sum := by
    rw [List.sum_eq_foldl, List.foldl_map]
  unfold valueOf
  rw [← total]

/-- There is one value for a class that has methods in the stream, and none for any other. -/
theorem filter_classValues_events (stream : Stream) (className : String) :
    (classValues stream.events : List (ClassValue α)).filter (fun value => value.name == className) =
      if stream.methodSpans className = [] then []
      else [valueOf className
        ((stream.methodSpans className).map (fun span => (span.name, span.complexity)))] := by
  rw [classValues_eq, methodsByClass_events,
    filter_map_tabulate stream.nodup_classNames _ (fun methods => !methods.isEmpty)
      (fun entry => valueOf entry.1 entry.2) ClassValue.name (fun _ => rfl)]
  by_cases none : stream.methodSpans className = []
  · rw [if_pos none, none]
    exact if_neg (fun both => Bool.false_ne_true both.2)
  · rw [if_neg none, if_pos ⟨Stream.mem_classNames_of_methodSpans none, by simpa using none⟩]

end Complexity

end CrateMetrics
