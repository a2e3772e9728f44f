/-
Well bracketed sequences of events. Reading them one after the other, one has to remember no more
than which class and which method was entered and not left. What can be read from outside to
outside has its brackets matched, and every event where it belongs.
-/

import CrateMetrics.Event
import Mathlib.Data.List.Basic
import Mathlib.Data.List.Induction

namespace CrateMetrics

namespace Event

def entersClass : Event → Bool
  | .enterClass _ => true
  | _ => false

def exitsClass : Event → Bool
  | .exitClass _ => true
  | _ => false

def entersMethod : Event → Bool
  | .enterMethod _ => true
  | _ => false

def exitsMethod : Event → Bool
  | .exitMethod _ => true
  | _ => false

/-- Decisions, calls and accesses, as they are found in code. -/
def isCode : Event → Bool
  | .decision _ | .call _ | .access _ => true
  | _ => false

end Event

/-- After these events, one that enters is not yet followed by one that exits. -/
def Within (enters exits : Event → Bool) (before : List Event) : Prop :=
  ∃ earlier opening inside, before = earlier ++ opening :: inside ∧ enters opening = true ∧
    ∀ event ∈ inside, exits event = false

def WithinClass : List Event → Prop :=
  Within Event.entersClass Event.exitsClass

def WithinMethod : List Event → Prop :=
  Within Event.entersMethod Event.exitsMethod

/-- Every class is left before another one is entered; methods are entered in classes, and between
entering and leaving them there is nothing but code; fields are in classes, but not in methods; and
at the end nothing is left to be closed. -/
structure WellBracketed (events : List Event) : Prop where
  classes : ∀ before name after, events = before ++ .enterClass name :: after →
    ∃ inside rest, after = inside ++ .exitClass name :: rest ∧
      ∀ event ∈ inside, event.entersClass = false ∧ event.exitsClass = false
  methods : ∀ before name after, events = before ++ .enterMethod name :: after →
    WithinClass before ∧ ∃ inside rest, after = inside ++ .exitMethod name :: rest ∧
      ∀ event ∈ inside, event.isCode = true
  fields : ∀ before name after, events = before ++ .field name :: after →
    WithinClass before ∧ ¬ WithinMethod before
  closed : ¬ WithinClass events ∧ ¬ WithinMethod events

/-! ### Reading events -/

/-- What was entered and not left. -/
inductive Place where
  | outside
  | type (name : String)
  | method (className name : String)

namespace Place

def inClass : Place → Bool
  | .outside => false
  | .type _ | .method _ _ => true

def inMethod : Place → Bool
  | .outside | .type _ => false
  | .method _ _ => true

def className? : Place → Option String
  | .outside => none
  | .type name => some name
  | .method className _ => some className

/-- Which events may come where, and where they lead. -/
inductive Moves : Place → Event → Place → Prop
  | enterClass (name : String) : Moves .outside (.enterClass name) (.type name)
  | field (className name : String) : Moves (.type className) (.field name) (.type className)
  | enterMethod (className name : String) :
      Moves (.type className) (.enterMethod name) (.method className name)
  | exitMethod (className name : String) :
      Moves (.method className name) (.exitMethod name) (.type className)
  | exitClass (name : String) : Moves (.type name) (.exitClass name) .outside
  | code (place : Place) {event : Event} (isCode : event.isCode = true) : Moves place event place

inductive Reads : Place → List Event → Place → Prop
  | nil (place : Place) : Reads place [] place
  | cons {place next last : Place} {event : Event} {rest : List Event}
      (moves : Moves place event next) (reads : Reads next rest last) :
      Reads place (event :: rest) last

variable {place next last : Place}

theorem Reads.append {first second : List Event} (readsFirst : Reads place first next)
    (readsSecond : Reads next second last) : Reads place (first ++ second) last := by
  induction readsFirst with
  | nil => exact readsSecond
  | cons moves _ ih => exact .cons moves (ih readsSecond)

theorem Reads.single {event : Event} (moves : Moves place event next) :
    Reads place [event] next :=
  .cons moves (.nil next)

/-- Code leads nowhere else. -/
theorem Reads.code (place : Place) {events : List Event}
    (code : ∀ event ∈ events, event.isCode = true) : Reads place events place := by
  induction events with
  | nil => exact .nil place
  | cons head rest ih =>
      refine .cons (.code place (code head (List.Mem.head rest))) (ih ?_)
      exact fun event present => code event (List.Mem.tail head present)

theorem Reads.split {first second : List Event} (reads : Reads place (first ++ second) last) :
    ∃ middle, Reads place first middle ∧ Reads middle second last := by
  induction first generalizing place with
  | nil => exact ⟨place, .nil place, reads⟩
  | cons head rest ih =>
      cases reads with
      | cons moves later =>
          obtain ⟨middle, before, after⟩ := ih later
          exact ⟨middle, .cons moves before, after⟩

theorem Reads.split_cons {before after : List Event} {event : Event}
    (reads : Reads place (before ++ event :: after) last) :
    ∃ here next, Reads place before here ∧ Moves here event next ∧ Reads next after last := by
  obtain ⟨here, earlier, later⟩ := reads.split
  cases later with
  | cons moves rest => exact ⟨here, _, earlier, moves, rest⟩

end Place

/-! ### Where events are -/

section

variable (enters exits : Event → Bool)

theorem not_within_nil : ¬ Within enters exits [] := by
  rintro ⟨earlier, opening, inside, split, _⟩
  exact List.append_ne_nil_of_right_ne_nil earlier (List.cons_ne_nil opening inside) split.symm

theorem within_concat (before : List Event) (event : Event) :
    Within enters exits (before ++ [event]) ↔
      enters event = true ∨ exits event = false ∧ Within enters exits before := by
  constructor
  · rintro ⟨earlier, opening, inside, split, opens, stays⟩
    rcases List.eq_nil_or_concat' inside with rfl | ⟨between, last, rfl⟩
    · obtain ⟨_, same⟩ := List.append_inj' split rfl
      rw [(List.cons.inj same).1]
      exact Or.inl opens
    · rw [← List.cons_append, ← List.append_assoc] at split
      obtain ⟨isBefore, same⟩ := List.append_inj' split rfl
      rw [← (List.cons.inj same).1] at stays
      refine Or.inr ⟨stays event (List.mem_append_right _ (List.mem_singleton.mpr rfl)), ?_⟩
      exact ⟨earlier, opening, between, isBefore, opens,
        fun other present => stays other (List.mem_append_left _ present)⟩
  · rintro (opens | ⟨stays, earlier, opening, inside, rfl, opens, inner⟩)
    · exact ⟨before, event, [], rfl, opens, fun _ present => nomatch present⟩
    · refine ⟨earlier, opening, inside ++ [event], by simp, opens, ?_⟩
      intro other present
      rcases List.mem_append.mp present with old | isNew
      · exact inner other old
      · rw [List.mem_singleton.mp isNew]
        exact stays

end

namespace Place

variable {here last : Place}

theorem Moves.inClass_iff {next : Place} {event : Event} (moves : Moves here event next) :
    next.inClass = true ↔
      event.entersClass = true ∨ event.exitsClass = false ∧ here.inClass = true := by
  cases moves with
  | code _ isCode => cases event <;> simp_all [Event.isCode, Event.entersClass, Event.exitsClass]
  | _ => simp [inClass, Event.entersClass, Event.exitsClass]

theorem Moves.inMethod_iff {next : Place} {event : Event} (moves : Moves here event next) :
    next.inMethod = true ↔
      event.entersMethod = true ∨ event.exitsMethod = false ∧ here.inMethod = true := by
  cases moves with
  | code _ isCode => cases event <;> simp_all [Event.isCode, Event.entersMethod, Event.exitsMethod]
  | _ => simp [inMethod, Event.entersMethod, Event.exitsMethod]

/-- The place tells what was entered and not left. -/
theorem Reads.within_iff {before : List Event} (reads : Reads .outside before here) :
    (WithinClass before ↔ here.inClass = true) ∧ (WithinMethod before ↔ here.inMethod = true) := by
  induction before using List.reverseRecOn generalizing here with
  | nil =>
      cases reads
      exact ⟨iff_of_false (not_within_nil _ _) Bool.false_ne_true,
        iff_of_false (not_within_nil _ _) Bool.false_ne_true⟩
  | append_singleton before event ih =>
      obtain ⟨earlier, next, readsBefore, moves, ends⟩ := reads.split_cons
      cases ends
      obtain ⟨inClass, inMethod⟩ := ih readsBefore
      constructor
      · rw [moves.inClass_iff, ← inClass]
        exact within_concat _ _ before event
      · rw [moves.inMethod_iff, ← inMethod]
        exact within_concat _ _ before event

/-- Where a stay has to end, it ends with the event that ends such stays. -/
theorem Reads.leaves {stays : Place → Prop} {inner : Event → Prop} {closing : Event}
    (step : ∀ {place next event}, stays place → Moves place event next →
      stays next ∧ inner event ∨ event = closing)
    {events : List Event} (reads : Reads here events last) (enters : stays here)
    (leaves : ¬ stays last) :
    ∃ inside rest, events = inside ++ closing :: rest ∧ ∀ event ∈ inside, inner event := by
  induction reads with
  | nil => exact absurd enters leaves
  | @cons place next last event rest moves later ih =>
      rcases step enters moves with ⟨remains, isInner⟩ | rfl
      · obtain ⟨inside, rest, rfl, allInner⟩ := ih remains leaves
        refine ⟨event :: inside, rest, rfl, ?_⟩
        intro other present
        cases present with
        | head => exact isInner
        | tail _ among => exact allInner other among
      · exact ⟨[], rest, rfl, fun _ present => nomatch present⟩

theorem Moves.of_class {name : String} {next : Place} {event : Event}
    (inside : here.className? = some name) (moves : Moves here event next) :
    next.className? = some name ∧ (event.entersClass = false ∧ event.exitsClass = false) ∨
      event = .exitClass name := by
  cases moves with
  | enterClass => cases inside
  | exitClass =>
      cases inside
      exact Or.inr rfl
  | field | enterMethod | exitMethod => exact Or.inl ⟨inside, rfl, rfl⟩
  | code _ isCode =>
      refine Or.inl ⟨inside, ?_⟩
      cases event <;> first | exact ⟨rfl, rfl⟩ | cases isCode

theorem Moves.of_method {className name : String} {next : Place} {event : Event}
    (inside : here = .method className name) (moves : Moves here event next) :
    next = .method className name ∧ event.isCode = true ∨ event = .exitMethod name := by
  subst inside
  cases moves with
  | exitMethod => exact Or.inr rfl
  | code _ isCode => exact Or.inl ⟨rfl, isCode⟩

end Place

open Place

theorem WellBracketed.of_reads {events : List Event} (reads : Reads .outside events .outside) :
    WellBracketed events := by
  constructor
  · rintro before name after rfl
    obtain ⟨here, next, _, moves, later⟩ := reads.split_cons
    cases moves with
    | enterClass => exact later.leaves Moves.of_class rfl (nomatch ·)
    | code _ isCode => cases isCode
  · rintro before name after rfl
    obtain ⟨here, next, earlier, moves, later⟩ := reads.split_cons
    cases moves with
    | enterMethod className =>
        exact ⟨earlier.within_iff.1.mpr rfl, later.leaves Moves.of_method rfl (nomatch ·)⟩
    | code _ isCode => cases isCode
  · rintro before name after rfl
    obtain ⟨here, next, earlier, moves, _⟩ := reads.split_cons
    cases moves with
    | field className => exact ⟨earlier.within_iff.1.mpr rfl, mt earlier.within_iff.2.mp nofun⟩
    | code _ isCode => cases isCode
  · exact ⟨mt reads.within_iff.1.mp nofun, mt reads.within_iff.2.mp nofun⟩

end CrateMetrics
