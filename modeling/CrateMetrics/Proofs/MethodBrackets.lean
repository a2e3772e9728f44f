/-
Brackets of methods, found in a sequence of events without a reading of the whole: a class is
entered and not left, a method is entered, and after its body it is left. In streams these are the
methods of the classes of that name, and no others.
-/

import CrateMetrics.Proofs.Brackets
import CrateMetrics.Proofs.Walk.Bracketing

namespace CrateMetrics

/-- In the events the method is entered while in the class, and left right after the body. -/
def HoldsMethod (events : List Event) (className name : String) (body : List Event) : Prop :=
  ∃ before inside after,
    events = before ++ .enterClass className ::
      (inside ++ .enterMethod name :: (body ++ .exitMethod name :: after)) ∧
    (∀ event ∈ inside, event.exitsClass = false) ∧ ∀ event ∈ body, event.exitsMethod = false

/-! ### Splitting sequences -/

section

variable {first before rest tail : List Event} {event other : Event}

/-- What is not among the first events comes after them. -/
private theorem exists_later (same : first ++ rest = before ++ event :: tail)
    (absent : event ∉ first) :
    ∃ later, before = first ++ later ∧ rest = later ++ event :: tail := by
  rcases List.append_eq_append_iff.mp same with ⟨later, isBefore, split⟩ | ⟨later, isFirst, split⟩
  · exact ⟨later, isBefore, split⟩
  · cases later with
    | nil => exact ⟨[], by rw [isFirst, List.append_nil, List.append_nil], split.symm⟩
    | cons head others =>
        cases split
        exact absurd (isFirst ▸ List.mem_append_right before (List.Mem.head others)) absent

/-- Before the first event that ends the two sequences they are the same. -/
private theorem eq_of_first_end {ends : Event → Bool}
    (same : first ++ event :: rest = before ++ other :: tail)
    (firstGoesOn : ∀ inner ∈ first, ends inner = false) (eventEnds : ends event = true)
    (beforeGoesOn : ∀ inner ∈ before, ends inner = false) (otherEnds : ends other = true) :
    first = before := by
  have cut {front back : List Event} {last : Event}
      (goesOn : ∀ inner ∈ front, ends inner = false) (lastEnds : ends last = true) :
      (front ++ last :: back).takeWhile (fun inner => !ends inner) = front := by
    rw [List.takeWhile_append_of_pos (fun inner present => by rw [goesOn inner present]; rfl),
      List.takeWhile_cons, lastEnds]
    exact List.append_nil front
  rw [← cut firstGoesOn eventEnds, same, cut beforeGoesOn otherEnds]

end

/-! ### Streams -/

private theorem MethodSpan.exitsMethod_of_mem {span : MethodSpan} {event : Event}
    (present : event ∈ span.body) : event.exitsMethod = false := by
  have plain := span.plain event present
  cases event <;> first | rfl | cases plain

private theorem MethodSpan.enterMethod_not_mem (span : MethodSpan) (name : String) :
    .enterMethod name ∉ span.body ++ [.exitMethod span.name] := by
  intro present
  rcases List.mem_append.mp present with inside | closing
  · cases span.plain _ inside
  · cases List.mem_singleton.mp closing

private theorem ClassPart.staysInClass {part : ClassPart} {event : Event}
    (present : event ∈ part.events) : event.entersClass = false ∧ event.exitsClass = false := by
  have ofPlain {inner : Event} (isPlain : inner.isPlain = true) :
      inner.entersClass = false ∧ inner.exitsClass = false := by
    cases inner <;> first | exact ⟨rfl, rfl⟩ | cases isPlain
  cases part with
  | plain inner isPlain =>
      rw [List.mem_singleton.mp present]
      exact ofPlain isPlain
  | method span =>
      rcases List.mem_append.mp present with opening | closing
      · rcases List.mem_cons.mp opening with rfl | inside
        · exact ⟨rfl, rfl⟩
        · exact ofPlain (span.plain event inside)
      · rw [List.mem_singleton.mp closing]
        exact ⟨rfl, rfl⟩

private theorem ClassSpan.enterClass_not_mem (span : ClassSpan) (name : String) :
    .enterClass name ∉ span.parts.flatMap ClassPart.events ++ [.exitClass span.name] := by
  intro present
  rcases List.mem_append.mp present with inside | closing
  · obtain ⟨part, _, inPart⟩ := List.mem_flatMap.mp inside
    cases (ClassPart.staysInClass inPart).1
  · cases List.mem_singleton.mp closing

/-- A method that is entered before the class is left is one of its methods. -/
private theorem exists_method_of_split {parts : List ClassPart} {closing name : String}
    {rest inside body after : List Event}
    (same : parts.flatMap ClassPart.events ++ .exitClass closing :: rest =
      inside ++ .enterMethod name :: (body ++ .exitMethod name :: after))
    (stays : ∀ event ∈ inside, event.exitsClass = false)
    (goesOn : ∀ event ∈ body, event.exitsMethod = false) :
    ∃ span ∈ parts.filterMap ClassPart.method?, span.name = name ∧ span.body = body := by
  induction parts generalizing inside with
  | nil =>
      cases inside with
      | nil => cases same
      | cons head others =>
          cases same
          cases stays _ (List.Mem.head others)
  | cons part others ih =>
      rw [List.flatMap_cons, List.append_assoc] at same
      cases part with
      | plain event isPlain =>
          cases inside with
          | nil =>
              have isEntry : event = .enterMethod name := (List.cons.inj same).1
              rw [isEntry] at isPlain
              cases isPlain
          | cons head later =>
              exact ih (List.cons.inj same).2
                (fun inner present => stays inner (List.Mem.tail head present))
      | method span =>
          rw [ClassPart.events, MethodSpan.events, List.cons_append, List.cons_append] at same
          cases inside with
          | nil =>
              obtain ⟨isEntry, sameRest⟩ := List.cons.inj same
              rw [List.append_assoc] at sameRest
              exact ⟨span, List.Mem.head _, Event.enterMethod.inj isEntry,
                eq_of_first_end sameRest (fun _ present => span.exitsMethod_of_mem present) rfl
                  goesOn rfl⟩
          | cons head later =>
              obtain ⟨_, sameRest⟩ := List.cons.inj same
              obtain ⟨last, isLater, split⟩ :=
                exists_later sameRest (span.enterMethod_not_mem name)
              obtain ⟨found, present, isMethod⟩ := ih split (fun inner innerPresent =>
                stays inner (List.Mem.tail head
                  (isLater ▸ List.mem_append_right _ innerPresent)))
              exact ⟨found, List.Mem.tail span present, isMethod⟩

namespace Stream

theorem methodSpans_type (span : ClassSpan) (rest : Stream) (className : String) :
    methodSpans (.type span :: rest) className =
      (if span.name = className then span.methods else []) ++ methodSpans rest className := by
  change ((span :: rest.classSpans).filter _).flatMap _ = _
  rw [List.filter_cons]
  by_cases named : span.name = className
  · rw [if_pos named, if_pos (beq_iff_eq.mpr named), List.flatMap_cons]
    rfl
  · rw [if_neg named, if_neg (fun same => named (eq_of_beq same))]
    rfl

private theorem exists_methodSpan_of_holds {stream : Stream} {className name : String}
    {body : List Event} (holds : HoldsMethod stream.events className name body) :
    ∃ span ∈ stream.methodSpans className, span.name = name ∧ span.body = body := by
  obtain ⟨before, inside, after, same, stays, goesOn⟩ := holds
  induction stream generalizing before with
  | nil => exact absurd same (List.append_ne_nil_of_right_ne_nil _ (List.cons_ne_nil _ _)).symm
  | cons part rest ih =>
      change part.events ++ Stream.events rest = _ at same
      cases part with
      | plain event isPlain =>
          cases before with
          | nil =>
              have isEntry : event = .enterClass className := (List.cons.inj same).1
              rw [isEntry] at isPlain
              cases isPlain
          | cons head later => exact ih later (List.cons.inj same).2
      | type span =>
          rw [StreamPart.events, ClassSpan.events, List.cons_append, List.cons_append] at same
          have split := methodSpans_type span rest className
          cases before with
          | nil =>
              obtain ⟨isEntry, sameRest⟩ := List.cons.inj same
              rw [List.append_assoc] at sameRest
              obtain ⟨method, present, isMethod⟩ := exists_method_of_split sameRest stays goesOn
              rw [split, if_pos (Event.enterClass.inj isEntry)]
              exact ⟨method, List.mem_append_left _ present, isMethod⟩
          | cons head later =>
              obtain ⟨_, sameRest⟩ := List.cons.inj same
              obtain ⟨last, _, splitRest⟩ :=
                exists_later sameRest (span.enterClass_not_mem className)
              obtain ⟨method, present, isMethod⟩ := ih last splitRest
              rw [split]
              exact ⟨method, List.mem_append_right _ present, isMethod⟩

private theorem holds_of_mem_methods {type : ClassSpan} {span : MethodSpan}
    (present : span ∈ type.methods) (rest : List Event) :
    HoldsMethod (type.events ++ rest) type.name span.name span.body := by
  obtain ⟨part, isPart, isMethod⟩ := List.mem_filterMap.mp present
  obtain ⟨front, back, split⟩ := List.append_of_mem isPart
  cases part with
  | plain event isPlain => cases isMethod
  | method own =>
      cases isMethod
      refine ⟨[], front.flatMap ClassPart.events,
        back.flatMap ClassPart.events ++ .exitClass type.name :: rest, ?_, ?_, ?_⟩
      · simp [ClassSpan.events, split, ClassPart.events, MethodSpan.events]
      · intro event inside
        obtain ⟨part, _, inPart⟩ := List.mem_flatMap.mp inside
        exact (ClassPart.staysInClass inPart).2
      · exact fun event inside => span.exitsMethod_of_mem inside

private theorem holds_of_mem_methodSpans {stream : Stream} {className : String} {span : MethodSpan}
    (present : span ∈ stream.methodSpans className) :
    HoldsMethod stream.events className span.name span.body := by
  induction stream with
  | nil => cases present
  | cons part rest ih =>
      cases part with
      | plain event isPlain =>
          obtain ⟨before, inside, after, same, bracket⟩ := ih present
          exact ⟨event :: before, inside, after, congrArg (event :: ·) same, bracket⟩
      | type type =>
          rw [methodSpans_type] at present
          rcases List.mem_append.mp present with here | later
          · by_cases named : type.name = className
            · rw [if_pos named] at here
              subst named
              exact holds_of_mem_methods here (Stream.events rest)
            · rw [if_neg named] at here
              cases here
          · obtain ⟨before, inside, after, same, bracket⟩ := ih later
            refine ⟨type.events ++ before, inside, after, ?_, bracket⟩
            change type.events ++ Stream.events rest = _
            rw [same, List.append_assoc]

/-- The methods that are found in the events of a stream are those of its classes. -/
theorem holdsMethod_iff (stream : Stream) (className name : String) (body : List Event) :
    HoldsMethod stream.events className name body ↔
      ∃ span ∈ stream.methodSpans className, span.name = name ∧ span.body = body := by
  constructor
  · exact exists_methodSpan_of_holds
  · rintro ⟨span, present, rfl, rfl⟩
    exact holds_of_mem_methodSpans present

end Stream

end CrateMetrics
