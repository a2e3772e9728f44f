/-
What is collected about each class from a stream with matched brackets: one method for each
bracket of a method inside, with the fields accessed and the own methods called there.
-/

import CrateMetrics.Cohesion.Usage
import CrateMetrics.Proofs.Tallying

namespace CrateMetrics

/-- The field that an event accesses. -/
def Event.accessed? : Event → Option String
  | .access name => some name
  | _ => none

/-- The name that an event calls on the own type. -/
def Event.ownCall? : Event → Option String
  | .call ⟨.ownType, name⟩ => some name
  | _ => none

/-- What the bracket of a method tells about its use of members. -/
def MethodSpan.usage (span : MethodSpan) : Cohesion.MethodUsage :=
  { name := span.name
    fields := span.body.filterMap Event.accessed?
    calls := span.body.filterMap Event.ownCall? }

namespace Cohesion

/-! ### Inside of a method -/

/-- What an event changes while a method is being walked. -/
def changeInside : Event → ClassUsage → ClassUsage
  | .field name => ClassUsage.addField name
  | .access name =>
      ClassUsage.modifyLast (fun method => { method with fields := method.fields ++ [name] })
  | .call ⟨.ownType, name⟩ =>
      ClassUsage.modifyLast (fun method => { method with calls := method.calls ++ [name] })
  | _ => id

def changeBody (body : List Event) (usage : ClassUsage) : ClassUsage :=
  body.foldl (fun usage event => changeInside event usage) usage

private theorem step_inside (table : ClassTable ClassUsage) (event : Event)
    (isPlain : event.isPlain = true) :
    Tally.step ⟨table, true⟩ event = ⟨table.modify (changeInside event), true⟩ := by
  cases event with
  | field name => rfl
  | decision kind => exact congrArg (Tally.mk · true) table.modify_id.symm
  | access name => rfl
  | call invocation =>
      obtain ⟨receiver, name⟩ := invocation
      cases receiver with
      | ownType => rfl
      | path owner => exact congrArg (Tally.mk · true) table.modify_id.symm
      | value => exact congrArg (Tally.mk · true) table.modify_id.symm
  | enterClass name => cases isPlain
  | exitClass name => cases isPlain
  | enterMethod name => cases isPlain
  | exitMethod name => cases isPlain

private theorem modify_concat (earlier : List MethodUsage) (last : MethodUsage)
    (change : MethodUsage → MethodUsage) :
    (earlier ++ [last]).modify earlier.length change = earlier ++ [change last] := by
  induction earlier with
  | nil => rfl
  | cons head rest ih =>
      rw [List.cons_append, List.length_cons, List.modify_succ_cons, ih, List.cons_append]

private theorem methods_modifyLast (change : MethodUsage → MethodUsage) (usage : ClassUsage)
    (earlier : List MethodUsage) (last : MethodUsage)
    (methods : usage.methods = earlier ++ [last]) :
    (usage.modifyLast change).methods = earlier ++ [change last] := by
  have position : usage.methods.length - 1 = earlier.length := by
    rw [methods, List.length_append, List.length_singleton, Nat.add_sub_cancel]
  change usage.methods.modify (usage.methods.length - 1) change = _
  rw [position, methods, modify_concat]

private theorem methods_changeBody (body : List Event) (usage : ClassUsage)
    (earlier : List MethodUsage) (last : MethodUsage)
    (methods : usage.methods = earlier ++ [last]) :
    (changeBody body usage).methods = earlier ++
      [{ last with
          fields := last.fields ++ body.filterMap Event.accessed?
          calls := last.calls ++ body.filterMap Event.ownCall? }] := by
  induction body generalizing usage last with
  | nil => simpa [changeBody] using methods
  | cons event rest ih =>
      change (changeBody rest (changeInside event usage)).methods = _
      cases event with
      | access name =>
          have changed : (changeInside (.access name) usage).methods = _ :=
            methods_modifyLast _ usage earlier last methods
          rw [ih _ _ changed, List.append_assoc]
          rfl
      | field name =>
          have kept : (usage.addField name).methods = earlier ++ [last] := by
            unfold ClassUsage.addField
            split
            · exact methods
            · exact methods
          exact ih _ last kept
      | call invocation =>
          obtain ⟨receiver, name⟩ := invocation
          cases receiver with
          | ownType =>
              have changed : (changeInside (.call ⟨.ownType, name⟩) usage).methods = _ :=
                methods_modifyLast _ usage earlier last methods
              rw [ih _ _ changed, List.append_assoc]
              rfl
          | path owner => exact ih usage last methods
          | value => exact ih usage last methods
      | decision kind => exact ih usage last methods
      | enterClass name => exact ih usage last methods
      | exitClass name => exact ih usage last methods
      | enterMethod name => exact ih usage last methods
      | exitMethod name => exact ih usage last methods

/-! ### Inside of a class -/

/-- What a part of the bracket of a class changes. -/
def changePart : ClassPart → ClassUsage → ClassUsage
  | .plain (.field name) _ => ClassUsage.addField name
  | .plain _ _ => id
  | .method span => changeBody span.body ∘ ClassUsage.addMethod span.name

private theorem foldl_step_part (table : ClassTable ClassUsage) (index : Nat)
    (current : table.current = some index) (part : ClassPart) :
    part.events.foldl Tally.step ⟨table, false⟩ = ⟨table.modify (changePart part), false⟩ := by
  cases part with
  | plain event isPlain =>
      cases event with
      | field name => rfl
      | decision kind => exact congrArg (Tally.mk · false) table.modify_id.symm
      | access name => exact congrArg (Tally.mk · false) table.modify_id.symm
      | call invocation =>
          obtain ⟨receiver, name⟩ := invocation
          cases receiver with
          | ownType => exact congrArg (Tally.mk · false) table.modify_id.symm
          | path owner => exact congrArg (Tally.mk · false) table.modify_id.symm
          | value => exact congrArg (Tally.mk · false) table.modify_id.symm
      | enterClass name => cases isPlain
      | exitClass name => cases isPlain
      | enterMethod name => cases isPlain
      | exitMethod name => cases isPlain
  | method span =>
      have entered : Tally.step ⟨table, false⟩ (.enterMethod span.name) =
          ⟨table.modify (ClassUsage.addMethod span.name), true⟩ := by
        simp only [Tally.step, current]
      change (Event.enterMethod span.name :: span.body ++ [Event.exitMethod span.name]).foldl
        Tally.step ⟨table, false⟩ = _
      have walked (table : ClassTable ClassUsage) : span.body.foldl Tally.step ⟨table, true⟩ =
          ⟨table.modify (changeBody span.body), true⟩ :=
        foldl_inside step_inside span.body span.plain table
      rw [List.cons_append, List.foldl_cons, List.foldl_append, entered, walked,
        ClassTable.modify_modify]
      rfl

private theorem methods_applyAll (parts : List ClassPart) (usage : ClassUsage) :
    (ClassPart.applyAll changePart parts usage).methods =
      usage.methods ++ (parts.filterMap ClassPart.method?).map MethodSpan.usage := by
  induction parts generalizing usage with
  | nil => exact (List.append_nil usage.methods).symm
  | cons part rest ih =>
      change (ClassPart.applyAll changePart rest (changePart part usage)).methods = _
      rw [ih]
      cases part with
      | plain event isPlain =>
          have kept : (changePart (.plain event isPlain) usage).methods = usage.methods := by
            cases event with
            | field name =>
                change (usage.addField name).methods = usage.methods
                unfold ClassUsage.addField
                split
                · rfl
                · rfl
            | _ => rfl
          rw [kept]
          rfl
      | method span =>
          have added : (changePart (.method span) usage).methods =
              usage.methods ++ [span.usage] :=
            methods_changeBody span.body (usage.addMethod span.name) usage.methods
              { name := span.name } rfl
          rw [added, List.append_assoc]
          rfl

/-! ### The whole stream -/

/-- Outside of brackets nothing is collected. -/
private theorem foldl_step_plain (table : ClassTable ClassUsage)
    (outside : table.current = none) (event : Event) (isPlain : event.isPlain = true) :
    Tally.step ⟨table, false⟩ event = ⟨table, false⟩ := by
  cases event with
  | field name => simp only [Tally.step, ClassTable.modify, outside]
  | decision kind => rfl
  | access name => rfl
  | call invocation =>
      obtain ⟨receiver, name⟩ := invocation
      cases receiver with
      | ownType => rfl
      | path owner => rfl
      | value => rfl
  | enterClass name => cases isPlain
  | exitClass name => cases isPlain
  | enterMethod name => cases isPlain
  | exitMethod name => cases isPlain

private theorem tallies_step :
    Tallies Tally.step (fun table => ⟨table, false⟩) {} changePart where
  enterClass _ _ := rfl
  exitClass _ _ := rfl
  part table index part current := foldl_step_part table index current part
  plain table event outside isPlain := foldl_step_plain table outside event isPlain

/-- Every class that is entered has its entry, in the order of first entry, with one method
for each bracket of a method inside of it. -/
theorem membersByClass_events (stream : Stream) :
    ∃ usage : String → ClassUsage,
      membersByClass stream.events =
        stream.classNames.map (fun name => (usage name).toMembers name) ∧
      ∀ name, (usage name).methods = (stream.methodSpans name).map MethodSpan.usage := by
  obtain ⟨table, read, entries⟩ := tallies_step.exists_table stream
  refine ⟨fun name => ClassPart.applyAll changePart (stream.parts name) {}, ?_, ?_⟩
  · unfold membersByClass
    rw [show stream.events.foldl Tally.step {} = _ from read, entries, ClassTable.tabulate,
      List.map_map]
    rfl
  · intro name
    rw [methods_applyAll, stream.filterMap_parts]
    rfl

end Cohesion

end CrateMetrics
