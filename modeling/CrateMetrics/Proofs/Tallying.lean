/-
What tallies make of streams. A tally reads events one by one and keeps a table of classes. If it
remembers no more than this table from one method to the next, then after a stream the table has an
entry for each class that was entered, with all that the parts of this class have changed.
-/

import CrateMetrics.Proofs.Brackets
import CrateMetrics.Proofs.ClassTable

namespace CrateMetrics

namespace Stream

/-- What the brackets of a class consist of, one bracket after the other. -/
def parts (stream : Stream) (className : String) : List ClassPart :=
  (stream.classSpans.filter (fun span => span.name == className)).flatMap ClassSpan.parts

theorem filterMap_parts (stream : Stream) (className : String) :
    (stream.parts className).filterMap ClassPart.method? = stream.methodSpans className := by
  unfold parts methodSpans
  rw [List.filterMap_flatMap]
  rfl

theorem nodup_classNames (stream : Stream) : stream.classNames.Nodup :=
  ClassTable.nodup_eraseDups _

/-- A class with a method was entered. -/
theorem mem_classNames_of_methodSpans {stream : Stream} {className : String}
    (inhabited : stream.methodSpans className ≠ []) : className ∈ stream.classNames := by
  obtain ⟨span, present⟩ := List.exists_mem_of_ne_nil _ inhabited
  obtain ⟨type, isType, _⟩ := List.mem_flatMap.mp present
  obtain ⟨entered, named⟩ := List.mem_filter.mp isType
  exact List.mem_eraseDups.mpr (List.mem_map.mpr ⟨type, entered, eq_of_beq named⟩)

end Stream

variable {σ β : Type}

/-- Applies the changes that parts of a class make, one after the other. -/
def ClassPart.applyAll (change : ClassPart → β → β) (parts : List ClassPart) (data : β) : β :=
  parts.foldl (fun data part => change part data) data

/-- From one method to the next the tally remembers nothing but the table of classes. A part of a
class changes the entry of this class, and what stands outside of classes changes nothing. -/
structure Tallies (step : σ → Event → σ) (between : ClassTable β → σ) (fresh : β)
    (change : ClassPart → β → β) : Prop where
  enterClass : ∀ (table : ClassTable β) (name : String),
    step (between table) (.enterClass name) = between (table.enter fresh name)
  exitClass : ∀ (table : ClassTable β) (name : String),
    step (between table) (.exitClass name) = between table.exit
  part : ∀ (table : ClassTable β) (index : Nat) (part : ClassPart), table.current = some index →
    part.events.foldl step (between table) = between (table.modify (change part))
  plain : ∀ (table : ClassTable β) (event : Event), table.current = none → event.isPlain = true →
    step (between table) event = between table

/-- Events of a method that each change the entry of the class change it one after the other. -/
theorem foldl_inside {step : σ → Event → σ} {inside : ClassTable β → σ} {change : Event → β → β}
    (stepInside : ∀ table event, event.isPlain = true →
      step (inside table) event = inside (table.modify (change event)))
    (body : List Event) (plain : ∀ event ∈ body, event.isPlain = true) (table : ClassTable β) :
    body.foldl step (inside table) =
      inside (table.modify (fun data => body.foldl (fun data event => change event data) data)) := by
  induction body generalizing table with
  | nil => exact congrArg inside table.modify_id.symm
  | cons event rest ih =>
      rw [List.foldl_cons, stepInside table event (plain event List.mem_cons_self),
        ih (fun later present => plain later (List.mem_cons_of_mem event present)),
        ClassTable.modify_modify]
      rfl

namespace Tallies

variable {step : σ → Event → σ} {between : ClassTable β → σ} {fresh : β}
  {change : ClassPart → β → β} (tallies : Tallies step between fresh change)

include tallies

private theorem foldl_parts (parts : List ClassPart) (table : ClassTable β) (index : Nat)
    (current : table.current = some index) :
    (parts.flatMap ClassPart.events).foldl step (between table) =
      between (table.modify (ClassPart.applyAll change parts)) := by
  induction parts generalizing table with
  | nil => exact congrArg between table.modify_id.symm
  | cons part rest ih =>
      have kept : (table.modify (change part)).current = some index :=
        (ClassTable.current_modify _ table).trans current
      rw [List.flatMap_cons, List.foldl_append, tallies.part table index part current, ih _ kept,
        ClassTable.modify_modify]
      rfl

private theorem foldl_type (table : ClassTable β) (span : ClassSpan) :
    span.events.foldl step (between table) =
      between (table.visit fresh span.name (ClassPart.applyAll change span.parts)) := by
  obtain ⟨index, current⟩ := ClassTable.exists_current_enter fresh span.name table
  rw [ClassSpan.events, List.cons_append, List.foldl_cons, List.foldl_append, tallies.enterClass,
    tallies.foldl_parts span.parts _ index current, List.foldl_cons, List.foldl_nil,
    tallies.exitClass]
  rfl

private theorem foldl_stream (stream : Stream) (table : ClassTable β)
    (outside : table.current = none) :
    stream.events.foldl step (between table) =
      between ((stream.classSpans.map (fun span =>
        (span.name, ClassPart.applyAll change span.parts))).foldl
          (fun table visit => table.visit fresh visit.1 visit.2) table) := by
  induction stream generalizing table with
  | nil => rfl
  | cons part rest ih =>
      change (part.events ++ Stream.events rest).foldl step (between table) = _
      rw [List.foldl_append]
      cases part with
      | plain event isPlain =>
          change (Stream.events rest).foldl step (step (between table) event) = _
          rw [tallies.plain table event outside isPlain]
          exact ih table outside
      | type span =>
          change (Stream.events rest).foldl step (span.events.foldl step (between table)) = _
          rw [tallies.foldl_type table span]
          exact ih _ rfl

omit tallies in
private theorem foldl_visits (spans : List ClassSpan) (name : String) (data : β) :
    (spans.map (fun span => (span.name, ClassPart.applyAll change span.parts))).foldl
        (fun data visit => if name = visit.1 then visit.2 data else data) data =
      ClassPart.applyAll change
        ((spans.filter (fun span => span.name == name)).flatMap ClassSpan.parts) data := by
  induction spans generalizing data with
  | nil => rfl
  | cons span rest ih =>
      rw [List.map_cons, List.foldl_cons, ih, List.filter_cons]
      by_cases same : name = span.name
      · rw [if_pos same, if_pos (beq_iff_eq.mpr same.symm), List.flatMap_cons]
        exact (List.foldl_append ..).symm
      · rw [if_neg same, if_neg (fun equal => same (eq_of_beq equal).symm)]

/-- The table after a stream has an entry for each class, in the order of first entry, with the
changes of all its parts. -/
theorem exists_table (stream : Stream) :
    ∃ table : ClassTable β, stream.events.foldl step (between {}) = between table ∧
      table.entries = ClassTable.tabulate stream.classNames (fun name =>
        ClassPart.applyAll change (stream.parts name) fresh) := by
  refine ⟨_, tallies.foldl_stream stream {} rfl, ?_⟩
  rw [ClassTable.entries_foldl_visit, List.map_map]
  have same (name : String) : ClassTable.changed fresh (stream.classSpans.map (fun span =>
      (span.name, ClassPart.applyAll change span.parts))) name =
        ClassPart.applyAll change (stream.parts name) fresh :=
    foldl_visits stream.classSpans name fresh
  rw [show ClassTable.changed fresh _ = _ from funext same]
  rfl

end Tallies

/-- Of the values made from entries that are kept, those of one name are the one that its entry
makes, if there is such an entry and it is kept. -/
theorem filter_map_tabulate {names : List String} (distinct : names.Nodup) (data : String → β)
    (kept : β → Bool) {γ : Type} (value : String × β → γ) (nameOf : γ → String)
    (named : ∀ entry, nameOf (value entry) = entry.1) (name : String) :
    (((ClassTable.tabulate names data).filter (fun entry => kept entry.2)).map value).filter
        (fun made => nameOf made == name) =
      if name ∈ names ∧ kept (data name) = true then [value (name, data name)] else [] := by
  have sameName : (fun made => nameOf made == name) ∘ value = fun entry => entry.1 == name := by
    funext entry
    exact congrArg (· == name) (named entry)
  have ofName : (ClassTable.tabulate names data).filter (fun entry => entry.1 == name) =
      List.replicate (names.count name) (name, data name) := by
    rw [ClassTable.tabulate, List.filter_map]
    change (names.filter (fun other => other == name)).map _ = _
    rw [List.filter_beq, List.map_replicate]
  rw [List.filter_map, sameName, List.filter_comm, ofName]
  by_cases present : name ∈ names
  · rw [List.count_eq_one_of_mem distinct present, List.replicate_one, List.filter_cons]
    by_cases isKept : kept (data name) = true
    · rw [if_pos isKept, if_pos ⟨present, isKept⟩]
      rfl
    · rw [if_neg isKept, if_neg (fun both => isKept both.2)]
      rfl
  · rw [List.count_eq_zero_of_not_mem present, if_neg (fun both => present both.1)]
    rfl

end CrateMetrics
