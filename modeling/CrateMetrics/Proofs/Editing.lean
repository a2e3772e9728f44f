/-
Edits that succeed, edits that are refused, and what all edits keep. An edit that succeeds takes a
state to another one and gives a result; edits that succeed one after the other succeed together.
One that is refused changes nothing. An invariant that each of several edits keeps outlasts them
all, also if one of them fails half way.
-/

import CrateMetrics.Measurement

namespace CrateMetrics

variable {σ β γ : Type}

namespace Edit

/-- The edit succeeds in the state before with the result, and leaves the state after. -/
def Takes (edit : Edit σ β) (before : σ) (result : β) (after : σ) : Prop :=
  edit.run.run before = (.ok result, after)

theorem takes_pure (result : β) (state : σ) :
    Takes (pure result) state result state := rfl

theorem takes_get (state : σ) : Takes get state state state := rfl

theorem takes_set (before after : σ) : Takes (set after) before () after := rfl

theorem Takes.bind {edit : Edit σ β} {next : β → Edit σ γ} {before between after : σ}
    {middle : β} {result : γ} (first : Takes edit before middle between)
    (second : Takes (next middle) between result after) :
    Takes (edit >>= next) before result after := by
  unfold Takes at *
  rw [ExceptT.run_bind, StateT.run_bind, first]
  exact second

theorem Takes.of_bind {edit : Edit σ β} {next : β → Edit σ γ} {before after : σ} {result : γ}
    (both : Takes (edit >>= next) before result after) :
    ∃ middle between, Takes edit before middle between ∧
      Takes (next middle) between result after := by
  unfold Takes at *
  rw [ExceptT.run_bind, StateT.run_bind] at both
  rcases ran : edit.run.run before with ⟨outcome, between⟩
  rw [ran] at both
  cases outcome with
  | error fault => cases both
  | ok middle => exact ⟨middle, between, rfl, both⟩

theorem Takes.of_get_bind {next : σ → Edit σ γ} {before after : σ} {result : γ}
    (both : Takes (get >>= next) before result after) : Takes (next before) before result after :=
  both

theorem Takes.unique {edit : Edit σ β} {before first second : σ} {left right : β}
    (one : Takes edit before left first) (other : Takes edit before right second) :
    left = right ∧ first = second := by
  unfold Takes at *
  rw [one] at other
  cases other
  exact ⟨rfl, rfl⟩

/-- Edits for all elements of a list, one after the other, where each keeps an invariant. -/
theorem takes_forM (keeps : σ → Prop) (step : σ → β → σ) (edit : β → Edit σ Unit)
    (items : List β)
    (each : ∀ item, item ∈ items → ∀ state, keeps state →
      Takes (edit item) state () (step state item) ∧ keeps (step state item))
    (state : σ) (kept : keeps state) :
    Takes (items.forM edit) state () (items.foldl step state) ∧
      keeps (items.foldl step state) := by
  induction items generalizing state with
  | nil => exact ⟨takes_pure () state, kept⟩
  | cons head rest ih =>
      obtain ⟨first, firstKept⟩ := each head (List.Mem.head rest) state kept
      obtain ⟨others, othersKept⟩ := ih
        (fun item present => each item (List.Mem.tail head present)) (step state head) firstKept
      exact ⟨first.bind others, othersKept⟩

/-! ### Refusals -/

/-- The edit fails in the state and leaves it as it is. -/
def Refused (edit : Edit σ β) (state : σ) : Prop :=
  ∃ fault, edit.run.run state = (.error fault, state)

theorem refused_throw (fault : Fault) (state : σ) : Refused (throw fault : Edit σ β) state :=
  ⟨fault, rfl⟩

theorem Refused.bind {edit : Edit σ β} {state : σ} (refused : edit.Refused state)
    (next : β → Edit σ γ) : Refused (edit >>= next) state := by
  obtain ⟨fault, fails⟩ := refused
  refine ⟨fault, ?_⟩
  rw [ExceptT.run_bind, StateT.run_bind, fails]
  rfl

/-- What is refused after edits that change nothing is refused together with them. -/
theorem Takes.bind_refused {edit : Edit σ β} {state : σ} {middle : β} {next : β → Edit σ γ}
    (first : Takes edit state middle state) (refused : (next middle).Refused state) :
    Refused (edit >>= next) state := by
  obtain ⟨fault, fails⟩ := refused
  refine ⟨fault, ?_⟩
  unfold Takes at first
  rw [ExceptT.run_bind, StateT.run_bind, first]
  exact fails

/-! ### Invariants -/

/-- The invariant outlasts the edit, whether it succeeds or fails. -/
def Keeps (invariant : σ → Prop) (edit : Edit σ β) : Prop :=
  ∀ before, invariant before → invariant (edit.run.run before).2

variable {invariant : σ → Prop}

theorem keeps_pure (result : β) : Keeps invariant (pure result : Edit σ β) :=
  fun _ kept => kept

theorem keeps_throw (fault : Fault) : Keeps invariant (throw fault : Edit σ β) :=
  fun _ kept => kept

theorem keeps_set {after : σ} (kept : invariant after) : Keeps invariant (set after) :=
  fun _ _ => kept

theorem Keeps.bind {edit : Edit σ β} {next : β → Edit σ γ} (first : Keeps invariant edit)
    (second : ∀ value, Keeps invariant (next value)) : Keeps invariant (edit >>= next) := by
  intro before kept
  have between := first before kept
  rw [ExceptT.run_bind, StateT.run_bind]
  rcases ran : edit.run.run before with ⟨outcome, middle⟩
  rw [ran] at between
  cases outcome with
  | error fault => exact between
  | ok value => exact second value middle between

/-- What comes after a look at the state has to keep the invariant only if it holds there. -/
theorem keeps_get_bind {next : σ → Edit σ β}
    (rest : ∀ before, invariant before → Keeps invariant (next before)) :
    Keeps invariant (get >>= next) :=
  fun before kept => rest before kept before kept

theorem Keeps.ite {condition : Prop} [Decidable condition] {first second : Edit σ β}
    (keepsFirst : condition → Keeps invariant first)
    (keepsSecond : ¬condition → Keeps invariant second) :
    Keeps invariant (if condition then first else second) := by
  split
  · exact keepsFirst ‹_›
  · exact keepsSecond ‹_›

/-- A check that refuses a state leaves it as it is. -/
theorem Keeps.unless {condition : Prop} [Decidable condition] {fault : Fault}
    {rest : PUnit → Edit σ β} (keeps : ¬condition → Keeps invariant (rest ⟨⟩)) :
    Keeps invariant (if condition then throw fault >>= rest else rest ⟨⟩) :=
  Keeps.ite (fun _ _ kept => kept) keeps

theorem keeps_forM {edit : β → Edit σ Unit} {items : List β}
    (each : ∀ item, item ∈ items → Keeps invariant (edit item)) :
    Keeps invariant (items.forM edit) := by
  induction items with
  | nil => exact keeps_pure ()
  | cons head rest ih =>
      exact (each head (List.Mem.head rest)).bind
        (fun _ => ih (fun item present => each item (List.Mem.tail head present)))

end Edit

open Edit

theorem Measurement.edit_eq {α : Type} {edit : Edit (Measurement α) β}
    {before after : Measurement α} {result : β} (takes : Takes edit before result after) :
    before.edit edit = .ok after := by
  unfold Measurement.edit
  rw [takes]

theorem Measurement.takes_of_edit_eq {α : Type} {edit : Edit (Measurement α) Unit}
    {before after : Measurement α} (succeeds : before.edit edit = .ok after) :
    Takes edit before () after := by
  unfold Measurement.edit at succeeds
  unfold Takes
  rcases ran : edit.run.run before with ⟨outcome, changed⟩
  rw [ran] at succeeds
  cases outcome with
  | error fault => cases succeeds
  | ok done =>
      cases succeeds
      rfl

/-- Edits that follow each other, run on their own. -/
theorem Measurement.edit_bind {α : Type} (measurement : Measurement α)
    (first second : Edit (Measurement α) Unit) :
    measurement.edit (do first; second) =
      (measurement.edit first >>= fun between => between.edit second) := by
  unfold Measurement.edit
  rw [ExceptT.run_bind, StateT.run_bind]
  rcases first.run.run measurement with ⟨result, between⟩
  cases result with
  | ok done => cases done; rfl
  | error fault => rfl

namespace Measurement

variable {α : Type} {tree child : Measurement α} (finer : tree.scope.finer = some child.scope)

include finer

theorem takes_addChild_known {known : Measurement α}
    (found : tree.child? child.scope child.name = some known) :
    Takes (addChild child) tree known tree := by
  unfold addChild
  refine (takes_get tree).bind ?_
  rw [finer, found]
  simp only [bne_self_eq_false]
  exact takes_pure known tree

theorem takes_addChild_absent (absent : tree.child? child.scope child.name = none) :
    Takes (addChild child) tree child { tree with children := tree.children ++ [child] } := by
  unfold addChild
  refine (takes_get tree).bind ?_
  rw [finer, absent]
  simp only [bne_self_eq_false]
  exact (takes_set tree _).bind (takes_pure _ _)

end Measurement

end CrateMetrics
