/-
Merging and accumulating together. With exact arithmetic it makes no difference whether two values
of one element are merged before they are accumulated, nor in which way values are merged, nor in
which order parts come.
-/

import CrateMetrics.Proofs.RollUp.Commutation
import Mathlib.Data.List.Perm.Basic

namespace CrateMetrics

open Edit

/-- The values report the same of what they cover. -/
structure MetricValue.SameReport (left right : MetricValue ℚ) : Prop where
  value : left.value = right.value
  count : left.count = right.count
  violated : left.violated = right.violated

namespace Policy

variable (policy : Policy) (metric : Metric ℚ)

theorem sameReport_merged_comm (left right : MetricValue ℚ) :
    (policy.merged metric left right).SameReport (policy.merged metric right left) := by
  let renamed : MetricValue ℚ := { right with name := left.name, pending := left.pending }
  have same : policy.merged metric left renamed = policy.merged metric renamed left :=
    policy.merged_comm metric rfl rfl
  have value := congrArg MetricValue.value same
  have count := congrArg MetricValue.count same
  have violated := congrArg MetricValue.violated same
  cases policy with
  | average => exact ⟨value, count, violated⟩
  | worstOf => exact ⟨value, count, violated⟩

theorem merged_assoc (first second third : MetricValue ℚ) :
    policy.merged metric (policy.merged metric first second) third =
      policy.merged metric first (policy.merged metric second third) := by
  cases policy with
  | average =>
      let front : MetricValue ℚ := average.merged metric (average.merged metric first second) third
      let back : MetricValue ℚ := average.merged metric first (average.merged metric second third)
      have value : front.value = back.value := by
        rw [(sameReport_merged_comm average metric first _).value, value_merged_merged_average,
          value_merged_merged_average, add_rotate, Nat.add_assoc first.count,
          Nat.add_comm first.count]
      have count : front.count = back.count := Nat.add_assoc _ _ _
      calc front
          = { first with
              value := front.value
              violated := metric.violatedBy front.value
              count := front.count } := rfl
        _ = { first with
              value := back.value
              violated := metric.violatedBy back.value
              count := back.count } := by rw [value, count]
        _ = back := rfl
  | worstOf =>
      simp only [merged, Scalar.larger_eq_max, max_assoc, Bool.or_assoc, Nat.add_assoc]

private theorem value_accumulated_merged (whole : MetricValue ℚ) {first : MetricValue ℚ}
    (coversFirst : 1 ≤ first.count) (second : MetricValue ℚ) :
    (policy.accumulated whole (policy.merged metric first second)).value =
      (policy.accumulated (policy.accumulated whole first) second).value := by
  cases policy with
  | average =>
      change whole.value + (average.merged metric first second).value *
          ((first.count + second.count : ℕ) : ℚ) =
        whole.value + first.value * (first.count : ℚ) + second.value * (second.count : ℚ)
      rw [value_mul_count_merged_average, add_assoc]
  | worstOf =>
      have counted : 1 ≤ (worstOf.accumulated whole first).count := by
        rw [count_accumulated]
        omega
      have merged : (worstOf.merged metric first second).value = max first.value second.value :=
        Scalar.larger_eq_max first.value second.value
      rw [value_accumulated_worstOf counted]
      -- what has counted nothing takes the first value it meets, however low
      by_cases empty : whole.count = 0
      · rw [value_accumulated_worstOf_empty empty, value_accumulated_worstOf_empty empty, merged]
      · have covers : 1 ≤ whole.count := Nat.one_le_iff_ne_zero.mpr empty
        rw [value_accumulated_worstOf covers, value_accumulated_worstOf covers, merged, max_assoc]

/-- A whole takes in a merged value as it takes in the two that were merged. -/
theorem accumulated_merged (whole : MetricValue ℚ) {first second : MetricValue ℚ}
    (coversFirst : 1 ≤ first.count) :
    policy.accumulated whole (policy.merged metric first second) =
      policy.accumulated (policy.accumulated whole first) second := by
  have value := policy.value_accumulated_merged metric whole coversFirst second
  have count := Nat.add_assoc whole.count first.count second.count
  cases policy with
  | average => exact (MetricValue.mk.injEq ..).mpr ⟨rfl, value, count.symm, rfl, rfl⟩
  | worstOf =>
      have violated := Bool.or_assoc whole.violated first.violated second.violated
      exact (MetricValue.mk.injEq ..).mpr ⟨rfl, value, count.symm, violated.symm, rfl⟩

theorem foldl_accumulated_perm {parts others : List (MetricValue ℚ)} (perm : parts.Perm others)
    (finals : ∀ part ∈ parts, part.Final) (whole : MetricValue ℚ) :
    parts.foldl policy.accumulated whole = others.foldl policy.accumulated whole := by
  refine perm.foldl_eq' ?_ whole
  intro first isFirst second isSecond collected
  exact policy.accumulated_right_comm collected (finals first isFirst).covers
    (finals second isSecond).covers

/-! ### Rolling up -/

/-- Accumulates all parts and finalizes what they come to. -/
def rollUp (parts : List (MetricValue ℚ)) : Edit (MetricValue ℚ) Unit := do
  parts.forM policy.accumulate
  policy.finalize metric

theorem takes_forM_accumulate {parts : List (MetricValue ℚ)} (finals : ∀ part ∈ parts, part.Final)
    {whole : MetricValue ℚ} (pending : whole.pending = true) :
    Takes (parts.forM policy.accumulate) whole () (parts.foldl policy.accumulated whole) :=
  (takes_forM (fun state => state.pending = true) policy.accumulated policy.accumulate parts
    (fun part present state collects =>
      ⟨policy.takes_accumulate collects (finals part present),
        (policy.pending_accumulated state part).trans collects⟩) whole pending).1

theorem run_rollUp {parts : List (MetricValue ℚ)} (finals : ∀ part ∈ parts, part.Final)
    {whole : MetricValue ℚ} (pending : whole.pending = true) :
    (policy.rollUp metric parts).run.run whole =
      (policy.finalize metric).run.run (parts.foldl policy.accumulated whole) := by
  have collected : (parts.forM policy.accumulate).run.run whole =
      (.ok (), parts.foldl policy.accumulated whole) :=
    policy.takes_forM_accumulate finals pending
  rw [rollUp, ExceptT.run_bind, StateT.run_bind, collected]
  rfl

theorem collecting_foldl_accumulated {parts : List (MetricValue ℚ)}
    (finals : ∀ part ∈ parts, part.Final) {whole : MetricValue ℚ} (collecting : whole.Collecting) :
    (parts.foldl policy.accumulated whole).Collecting := by
  induction parts generalizing whole with
  | nil => exact collecting
  | cons head rest ih =>
      obtain ⟨isFinal, restFinal⟩ := List.forall_mem_cons.mp finals
      exact ih restFinal (isFinal.accumulated collecting.pending)

theorem takes_rollUp {parts : List (MetricValue ℚ)} (finals : ∀ part ∈ parts, part.Final)
    (some : parts ≠ []) {whole : MetricValue ℚ} (pending : whole.pending = true) :
    Takes (policy.rollUp metric parts) whole ()
      (policy.finalized metric (parts.foldl policy.accumulated whole)) := by
  have collecting : (parts.foldl policy.accumulated whole).Collecting := by
    cases parts with
    | nil => exact absurd rfl some
    | cons head rest =>
        obtain ⟨isFinal, restFinal⟩ := List.forall_mem_cons.mp finals
        exact policy.collecting_foldl_accumulated restFinal (isFinal.accumulated pending)
  exact (policy.run_rollUp metric finals pending).trans (policy.takes_finalize metric collecting)

/-- Values that were merged come to the same whole as those that they were merged from. Merging two
values reports the same whichever takes in the other, and merging three whichever two come first.
What parts roll up to does not depend on their order. -/
theorem merged_values_roll_up :
    (∀ whole first second : MetricValue ℚ, whole.pending = true → first.Final → second.Final →
      ∃ joined after, Takes (policy.merge metric second) first () joined ∧
        Takes (policy.accumulate joined) whole () after ∧
        Takes (do policy.accumulate first; policy.accumulate second) whole () after) ∧
    (∀ left right : MetricValue ℚ, left.Final → right.Final →
      ∃ forth back, Takes (policy.merge metric right) left () forth ∧
        Takes (policy.merge metric left) right () back ∧ forth.SameReport back) ∧
    (∀ first second third : MetricValue ℚ, first.Final → second.Final → third.Final →
      ∃ front back whole, Takes (policy.merge metric second) first () front ∧
        Takes (policy.merge metric third) front () whole ∧
        Takes (policy.merge metric third) second () back ∧
        Takes (policy.merge metric back) first () whole) ∧
    ∀ (name : String) (parts others : List (MetricValue ℚ)), parts.Perm others →
      (∀ part ∈ parts, part.Final) →
        (policy.rollUp metric parts).run.run (.empty name) =
            (policy.rollUp metric others).run.run (.empty name) ∧
          (parts ≠ [] → ∃ result, Takes (policy.rollUp metric parts) (.empty name) () result) := by
  refine ⟨?_, ?_, ?_, ?_⟩
  · intro whole first second pending isFirst isSecond
    have accumulatesFirst := policy.takes_accumulate pending isFirst
    have stays : (policy.accumulated whole first).pending = true :=
      (policy.pending_accumulated whole first).trans pending
    refine ⟨_, _, policy.takes_merge metric isFirst isSecond,
      policy.takes_accumulate pending isFirst.merged, ?_⟩
    rw [policy.accumulated_merged metric whole isFirst.covers]
    exact accumulatesFirst.bind (policy.takes_accumulate stays isSecond)
  · intro left right isLeft isRight
    exact ⟨_, _, policy.takes_merge metric isLeft isRight, policy.takes_merge metric isRight isLeft,
      policy.sameReport_merged_comm metric left right⟩
  · intro first second third isFirst isSecond isThird
    refine ⟨_, _, _, policy.takes_merge metric isFirst isSecond,
      policy.takes_merge metric isFirst.merged isThird,
      policy.takes_merge metric isSecond isThird, ?_⟩
    rw [merged_assoc]
    exact policy.takes_merge metric isFirst isSecond.merged
  · intro name parts others perm finals
    have othersFinal : ∀ part ∈ others, part.Final :=
      fun part present => finals part (perm.mem_iff.mpr present)
    refine ⟨?_, fun some => ⟨_, policy.takes_rollUp metric finals some rfl⟩⟩
    rw [policy.run_rollUp metric finals rfl, policy.run_rollUp metric othersFinal rfl,
      policy.foldl_accumulated_perm perm finals]

/-- No value above three is wanted. -/
def upToThree : Metric ℚ := { name := "lcom4", limit := .atMost 3 }

/-- Values below the zero that a new value starts from. -/
def lowParts : List (MetricValue ℚ) :=
  [.final "lcom4" (-2) 1 false, .final "lcom4" (-5) 3 true, .final "lcom4" (-1) 4 false]

theorem lowParts_roll_up :
    lowParts.Perm lowParts.reverse ∧ (∀ part ∈ lowParts, part.Final) ∧
    (worstOf.rollUp upToThree lowParts).run.run (.empty "lcom4") =
      (worstOf.rollUp upToThree lowParts.reverse).run.run (.empty "lcom4") ∧
    ∃ result, Takes (worstOf.rollUp upToThree lowParts) (.empty "lcom4") () result ∧
      result.value = -1 ∧ result.count = 8 ∧ result.violated = true := by
  have perm : lowParts.Perm lowParts.reverse := (List.reverse_perm lowParts).symm
  have finals : ∀ part ∈ lowParts, part.Final := by
    have each : ∀ part ∈ lowParts, part.pending = false ∧ 1 ≤ part.count := by decide
    exact fun part present => ⟨(each part present).1, (each part present).2⟩
  obtain ⟨_, _, _, rolls⟩ := merged_values_roll_up worstOf upToThree
  obtain ⟨same, succeeds⟩ := rolls "lcom4" lowParts lowParts.reverse perm finals
  obtain ⟨result, takes⟩ := succeeds (by decide)
  have value : ((worstOf.rollUp upToThree lowParts).run.run (.empty "lcom4")).2.value = -1 ∧
      ((worstOf.rollUp upToThree lowParts).run.run (.empty "lcom4")).2.count = 8 ∧
      ((worstOf.rollUp upToThree lowParts).run.run (.empty "lcom4")).2.violated = true := by
    decide +kernel
  rw [takes] at value
  exact ⟨perm, finals, same, result, takes, value⟩

end Policy

end CrateMetrics
