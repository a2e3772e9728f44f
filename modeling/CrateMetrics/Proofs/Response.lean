/-
The response of classes, told from a stream. The brackets of the methods of a class give the calls
that it responds with: its own methods and what they call. The value of the class is the number of
signatures of these calls, and it is the number of calls where signatures tell calls apart.
-/

import CrateMetrics.Proofs.Signatures
import CrateMetrics.Proofs.Tallying
import CrateMetrics.Response
import Mathlib.Data.Finset.Card

namespace CrateMetrics

namespace Event

def invocation? : Event → Option Invocation
  | .call invocation => some invocation
  | _ => none

end Event

/-- The method, as a call on the own type, and the calls in its body. -/
def MethodSpan.responses (span : MethodSpan) : List Invocation :=
  ⟨.ownType, Text.bareName span.name⟩ :: span.body.filterMap Event.invocation?

theorem MethodSpan.mem_responses_iff {span : MethodSpan} {call : Invocation} :
    call ∈ span.responses ↔
      call = ⟨.ownType, Text.bareName span.name⟩ ∨ .call call ∈ span.body := by
  have isCall : call ∈ span.body.filterMap Event.invocation? ↔ .call call ∈ span.body := by
    rw [List.mem_filterMap]
    constructor
    · rintro ⟨event, present, isMade⟩
      cases event with
      | call made =>
          cases isMade
          exact present
      | _ => cases isMade
    · intro present
      exact ⟨_, present, rfl⟩
  rw [responses, List.mem_cons, isCall]

namespace Response

namespace ResponseSet

def insertAll (calls : List Invocation) (set : ResponseSet) : ResponseSet :=
  calls.foldl (fun set call => set.insert call.signature) set

theorem methods_insert (signature : String) (set : ResponseSet) :
    (set.insert signature).methods = set.methods := by
  unfold insert
  split
  · rfl
  · rfl

theorem mem_insert {signature other : String} {set : ResponseSet} :
    other ∈ (set.insert signature).signatures ↔ other ∈ set.signatures ∨ signature = other := by
  unfold insert
  split
  · rename_i known
    constructor
    · exact Or.inl
    · rintro (old | rfl)
      · exact old
      · exact List.contains_iff_mem.mp known
  · rw [List.mem_append, List.mem_singleton, eq_comm]

theorem nodup_insert {signature : String} {set : ResponseSet} (distinct : set.signatures.Nodup) :
    (set.insert signature).signatures.Nodup := by
  unfold insert
  split
  · exact distinct
  · rename_i unknown
    refine List.Nodup.append distinct (List.nodup_singleton _) ?_
    intro other inside isNew
    rw [List.mem_singleton.mp isNew] at inside
    exact unknown (List.contains_iff_mem.mpr inside)

/-- The set counts the methods, and has the signature of each call exactly once. -/
structure Covers (set : ResponseSet) (methods : Nat) (calls : List Invocation) : Prop where
  count : set.methods = methods
  distinct : set.signatures.Nodup
  mem_iff : ∀ signature, signature ∈ set.signatures ↔ ∃ call ∈ calls, call.signature = signature

theorem covers_empty : Covers {} 0 [] where
  count := rfl
  distinct := List.nodup_nil
  mem_iff _ := ⟨(fun present => nomatch present), fun ⟨_, present, _⟩ => nomatch present⟩

namespace Covers

variable {set : ResponseSet} {methods : Nat} {calls : List Invocation}

theorem insert (covers : set.Covers methods calls) (call : Invocation) :
    (set.insert call.signature).Covers methods (calls ++ [call]) where
  count := (methods_insert _ set).trans covers.count
  distinct := nodup_insert covers.distinct
  mem_iff signature := by
    rw [mem_insert, covers.mem_iff]
    simp only [List.mem_append, List.mem_singleton, or_and_right, exists_or, exists_eq_left]

theorem insertAll (covers : set.Covers methods calls) (others : List Invocation) :
    (set.insertAll others).Covers methods (calls ++ others) := by
  induction others generalizing set calls with
  | nil =>
      rw [List.append_nil]
      exact covers
  | cons call rest ih =>
      rw [List.append_cons]
      exact ih (covers.insert call)

theorem countMethod (covers : set.Covers methods calls) :
    Covers { set with methods := set.methods + 1 } (methods + 1) calls where
  count := congrArg (· + 1) covers.count
  distinct := covers.distinct
  mem_iff := covers.mem_iff

theorem length_signatures (covers : set.Covers methods calls) :
    set.signatures.length = (calls.map Invocation.signature).toFinset.card := by
  rw [← List.toFinset_card_of_nodup covers.distinct]
  refine congrArg Finset.card (Finset.ext (fun signature => ?_))
  rw [List.mem_toFinset, List.mem_toFinset, covers.mem_iff, List.mem_map]

end Covers

end ResponseSet

/-- What a part of the bracket of a class adds to the set. -/
def changePart : ClassPart → ResponseSet → ResponseSet
  | .plain _ _ => id
  | .method span => fun set => { set with methods := set.methods + 1 }.insertAll span.responses

private theorem step_between (table : ClassTable ResponseSet) (event : Event)
    (isPlain : event.isPlain = true) : Tally.step ⟨table, false⟩ event = ⟨table, false⟩ := by
  cases event with
  | field _ | decision _ | call _ | access _ => rfl
  | enterClass _ | exitClass _ | enterMethod _ | exitMethod _ => cases isPlain

/-- What an event changes while a method is being walked. -/
def changeInside (event : Event) (set : ResponseSet) : ResponseSet :=
  match event.invocation? with
  | some call => set.insert call.signature
  | none => set

private theorem step_inside (table : ClassTable ResponseSet) (event : Event)
    (isPlain : event.isPlain = true) :
    Tally.step ⟨table, true⟩ event = ⟨table.modify (changeInside event), true⟩ := by
  cases event with
  | call _ => rfl
  | field _ | decision _ | access _ => exact congrArg (Tally.mk · true) table.modify_id.symm
  | enterClass _ | exitClass _ | enterMethod _ | exitMethod _ => cases isPlain

private theorem foldl_step_body (span : MethodSpan) (table : ClassTable ResponseSet) :
    span.body.foldl Tally.step ⟨table, true⟩ =
      ⟨table.modify (ResponseSet.insertAll (span.body.filterMap Event.invocation?)), true⟩ := by
  have inserts (set : ResponseSet) :
      set.insertAll (span.body.filterMap Event.invocation?) =
        span.body.foldl (fun set event => changeInside event set) set := by
    rw [ResponseSet.insertAll, List.foldl_filterMap]
    congr 1
    funext set event
    cases event <;> rfl
  rw [show ResponseSet.insertAll _ = _ from funext inserts]
  exact foldl_inside step_inside span.body span.plain table

private theorem foldl_step_part (table : ClassTable ResponseSet) (part : ClassPart) :
    part.events.foldl Tally.step ⟨table, false⟩ = ⟨table.modify (changePart part), false⟩ := by
  cases part with
  | plain event isPlain =>
      change Tally.step ⟨table, false⟩ event = ⟨table.modify id, false⟩
      rw [step_between table event isPlain, table.modify_id]
  | method span =>
      change (Event.enterMethod span.name :: span.body ++ [Event.exitMethod span.name]).foldl
        Tally.step ⟨table, false⟩ = _
      rw [List.cons_append, List.foldl_cons, List.foldl_append]
      change [Event.exitMethod span.name].foldl Tally.step
        (span.body.foldl Tally.step ⟨table.modify (ResponseSet.addMethod span.name), true⟩) = _
      rw [foldl_step_body span, ClassTable.modify_modify]
      rfl

private theorem tallies_step :
    Tallies Tally.step (fun table => ⟨table, false⟩) {} changePart where
  enterClass _ _ := rfl
  exitClass _ _ := rfl
  part table _ part _ := foldl_step_part table part
  plain table event _ isPlain := step_between table event isPlain

private theorem covers_applyAll (parts : List ClassPart) {set : ResponseSet} {methods : Nat}
    {calls : List Invocation} (covers : set.Covers methods calls) :
    (ClassPart.applyAll changePart parts set).Covers
      (methods + (parts.filterMap ClassPart.method?).length)
      (calls ++ (parts.filterMap ClassPart.method?).flatMap MethodSpan.responses) := by
  induction parts generalizing set methods calls with
  | nil =>
      rw [List.filterMap_nil, List.flatMap_nil, List.append_nil]
      exact covers
  | cons part rest ih =>
      change (ClassPart.applyAll changePart rest (changePart part set)).Covers _ _
      cases part with
      | plain _ _ => exact ih covers
      | method span =>
          have added := ih (covers.countMethod.insertAll span.responses)
          rw [List.append_assoc, Nat.add_assoc, Nat.add_comm 1] at added
          exact added

variable {α : Type} [Scalar α]

/-- The value of a class whose methods have these brackets. -/
def valueOf (className : String) (methods : List MethodSpan) : ClassValue α :=
  let signatures := (methods.flatMap MethodSpan.responses).map Invocation.signature
  { name := className, value := Scalar.ofCount signatures.toFinset.card, count := 1 }

/-- There is one value for a class that has methods in the stream, and none for any other. -/
theorem filter_classValues_events (stream : Stream) (className : String) :
    (classValues stream.events : List (ClassValue α)).filter
        (fun value => value.name == className) =
      if stream.methodSpans className = [] then []
      else [valueOf className (stream.methodSpans className)] := by
  obtain ⟨table, read, entries⟩ := tallies_step.exists_table stream
  have covers := covers_applyAll (stream.parts className) ResponseSet.covers_empty
  rw [stream.filterMap_parts, Nat.zero_add, List.nil_append] at covers
  have counted : decide (0 < (ClassPart.applyAll changePart (stream.parts className) {}).methods) =
      true ↔ stream.methodSpans className ≠ [] := by
    rw [decide_eq_true_iff, covers.count, List.length_pos_iff]
  let made (entry : String × ResponseSet) : ClassValue α :=
    { name := entry.1, value := Scalar.ofCount entry.2.signatures.length, count := 1 }
  have ofClass := filter_map_tabulate stream.nodup_classNames
    (fun name => ClassPart.applyAll changePart (stream.parts name) {})
    (fun set => decide (0 < set.methods)) made ClassValue.name (fun _ => rfl) className
  rw [classValues, show stream.events.foldl Tally.step {} = _ from read]
  dsimp only
  rw [entries]
  refine ofClass.trans ?_
  by_cases none : stream.methodSpans className = []
  · rw [if_pos none, if_neg (fun both => counted.mp both.2 none)]
  · rw [if_neg none, if_pos ⟨Stream.mem_classNames_of_methodSpans none, counted.mpr none⟩, valueOf]
    dsimp only [made]
    rw [covers.length_signatures]

end Response

end CrateMetrics
