/-
The rules of aggregation where they are broken. A request that breaks one is refused and changes
nothing, so whatever is asked for, and however often, a value collects parts first, is finalized
once and merged only then. No request divides by a number of elements that is zero.
-/

import CrateMetrics.Proofs.RollUp.Exact

namespace CrateMetrics

open Edit

variable {α : Type}

/-- The value still collects, or covers nothing. -/
def MetricValue.Unsettled (value : MetricValue α) : Prop :=
  value.pending = true ∨ value.count = 0

theorem MetricValue.final_of_not_unsettled {value : MetricValue α} (settled : ¬ value.Unsettled) :
    value.Final := by
  unfold Unsettled at settled
  rw [not_or, Bool.not_eq_true] at settled
  exact ⟨settled.1, Nat.one_le_iff_ne_zero.mpr settled.2⟩

theorem MetricValue.Unsettled.refused_requireFinal {σ : Type} {value : MetricValue α}
    (unsettled : value.Unsettled) (state : σ) : Refused value.requireFinal state := by
  unfold MetricValue.requireFinal
  by_cases pending : value.pending = true
  · rw [if_pos pending]
    exact ⟨_, rfl⟩
  · rw [if_neg pending, if_pos (unsettled.resolve_left pending)]
    exact ⟨_, rfl⟩

/-- The same arithmetic with another division. -/
@[reducible] def Scalar.withDivision [Scalar α] (divide : α → α → α) : Scalar α :=
  { ‹Scalar α› with div := divide }

/-! ### Requests -/

/-- One request of the rules on a value, with whatever it is given. -/
inductive Request (α : Type) where
  | accumulate (policy : Policy) (part : MetricValue α)
  | finalize (policy : Policy) (metric : Metric α)
  | merge (policy : Policy) (metric : Metric α) (incoming : MetricValue α)

namespace Request

def isAccumulate : Request α → Bool
  | accumulate _ _ => true
  | _ => false

def isFinalize : Request α → Bool
  | finalize _ _ => true
  | _ => false

def isMerge : Request α → Bool
  | merge _ _ _ => true
  | _ => false

/-- How many elements the request brings in. -/
def count : Request α → Nat
  | accumulate _ part => part.count
  | finalize _ _ => 0
  | merge _ _ incoming => incoming.count

/-- The request breaks a rule on this value. -/
def Breaks (value : MetricValue α) : Request α → Prop
  | accumulate _ part => part.Unsettled ∨ value.pending = false
  | finalize _ _ => value.pending = false ∨ value.count = 0
  | merge _ _ incoming => value.Unsettled ∨ incoming.Unsettled

variable [Scalar α]

def edit : Request α → Edit (MetricValue α) Unit
  | accumulate policy part => policy.accumulate part
  | finalize policy metric => policy.finalize metric
  | merge policy metric incoming => policy.merge metric incoming

/-- What a request makes of a value if it breaks no rule. -/
def applied (value : MetricValue α) : Request α → MetricValue α
  | accumulate policy part => policy.accumulated value part
  | finalize policy metric => policy.finalized metric value
  | merge policy metric incoming => policy.merged metric value incoming

theorem refused_of_breaks {request : Request α} {value : MetricValue α}
    (breaks : request.Breaks value) : request.edit.Refused value := by
  cases request with
  | accumulate policy part =>
      change Refused (policy.accumulate part) value
      unfold Policy.accumulate
      by_cases unsettled : part.Unsettled
      · exact (unsettled.refused_requireFinal value).bind _
      · have isFinal := MetricValue.final_of_not_unsettled unsettled
        have settled : (!value.pending) = true := by simp [breaks.resolve_left unsettled]
        refine (isFinal.takes_requireFinal value).bind_refused
          ((takes_get value).bind_refused ?_)
        rw [if_pos settled]
        exact (refused_throw _ value).bind _
  | finalize policy metric =>
      change Refused (policy.finalize metric) value
      unfold Policy.finalize
      refine (takes_get value).bind_refused ?_
      by_cases settled : (!value.pending) = true
      · rw [if_pos settled]
        exact (refused_throw _ value).bind _
      · have empty : value.count = 0 := breaks.resolve_left (by simpa using settled)
        rw [if_neg settled, if_pos empty]
        exact (refused_throw _ value).bind _
  | merge policy metric incoming =>
      change Refused (policy.merge metric incoming) value
      unfold Policy.merge
      refine (takes_get value).bind_refused ?_
      by_cases unsettled : value.Unsettled
      · exact (unsettled.refused_requireFinal value).bind _
      · have isFinal := MetricValue.final_of_not_unsettled unsettled
        exact (isFinal.takes_requireFinal value).bind_refused
          (((breaks.resolve_left unsettled).refused_requireFinal value).bind _)

theorem takes_edit {request : Request α} {value : MetricValue α} (obeys : ¬ request.Breaks value) :
    Takes request.edit value () (request.applied value) := by
  cases request with
  | accumulate policy part =>
      have obeyed := not_or.mp obeys
      exact policy.takes_accumulate ((Bool.not_eq_false _).mp obeyed.2)
        (MetricValue.final_of_not_unsettled obeyed.1)
  | finalize policy metric =>
      have obeyed := not_or.mp obeys
      exact policy.takes_finalize metric
        ⟨(Bool.not_eq_false _).mp obeyed.1, Nat.one_le_iff_ne_zero.mpr obeyed.2⟩
  | merge policy metric incoming =>
      have obeyed := not_or.mp obeys
      exact policy.takes_merge metric (MetricValue.final_of_not_unsettled obeyed.1)
        (MetricValue.final_of_not_unsettled obeyed.2)

/-- A request fails if and only if it breaks a rule, and changes nothing when it fails. -/
theorem fails_iff (request : Request α) (value : MetricValue α) :
    ((∃ fault changed, request.edit.run.run value = (.error fault, changed)) ↔
      request.Breaks value) ∧
    ∀ fault changed, request.edit.run.run value = (.error fault, changed) → changed = value := by
  by_cases breaks : request.Breaks value
  · obtain ⟨fault, fails⟩ := refused_of_breaks breaks
    refine ⟨iff_of_true ⟨fault, value, fails⟩ breaks, ?_⟩
    intro other changed ran
    rw [fails] at ran
    exact (Prod.mk.inj ran).2.symm
  · have takes : request.edit.run.run value = (.ok (), request.applied value) := takes_edit breaks
    have succeeds (fault : Fault) (changed : MetricValue α) :
        request.edit.run.run value ≠ (.error fault, changed) := by
      rw [takes]
      intro same
      cases same
    refine ⟨iff_of_false ?_ breaks, ?_⟩
    · rintro ⟨fault, changed, ran⟩
      exact succeeds fault changed ran
    · intro fault changed ran
      exact absurd ran (succeeds fault changed)

theorem count_applied (request : Request α) (value : MetricValue α) :
    (request.applied value).count = value.count + request.count := by
  cases request with
  | accumulate policy part => exact policy.count_accumulated value part
  | finalize policy metric => exact policy.count_finalized metric value
  | merge policy metric incoming => exact policy.count_merged metric value incoming

/-! ### Runs -/

/-- The requests that succeed when one is made after the other, and the value that is left. -/
def attempt : List (Request α) → MetricValue α → List (Request α) × MetricValue α
  | [], value => ([], value)
  | request :: rest, value =>
      match request.edit.run.run value with
      | (.ok (), changed) =>
          let (succeeded, last) := attempt rest changed
          (request :: succeeded, last)
      | (.error _, changed) => attempt rest changed

theorem attempt_cons_of_breaks {request : Request α} {value : MetricValue α}
    (rest : List (Request α)) (breaks : request.Breaks value) :
    attempt (request :: rest) value = attempt rest value := by
  obtain ⟨fault, fails⟩ := refused_of_breaks breaks
  rw [attempt, fails]

theorem attempt_cons_of_obeys {request : Request α} {value : MetricValue α}
    (rest : List (Request α)) (obeys : ¬ request.Breaks value) :
    attempt (request :: rest) value =
      (request :: (attempt rest (request.applied value)).1,
        (attempt rest (request.applied value)).2) := by
  have takes : request.edit.run.run value = (.ok (), request.applied value) := takes_edit obeys
  rw [attempt, takes]

/-- The elements of a value are those of the requests that succeeded, and those it had before. -/
theorem count_attempt (requests : List (Request α)) (value : MetricValue α) :
    (attempt requests value).2.count =
      value.count + ((attempt requests value).1.map count).sum := by
  induction requests generalizing value with
  | nil => rfl
  | cons request rest ih =>
      by_cases breaks : request.Breaks value
      · rw [attempt_cons_of_breaks rest breaks]
        exact ih value
      · rw [attempt_cons_of_obeys rest breaks]
        dsimp only
        rw [ih, count_applied, List.map_cons, List.sum_cons, Nat.add_assoc]

/-- A value that does not collect is only merged. -/
theorem attempt_of_settled (requests : List (Request α)) {value : MetricValue α}
    (settled : value.pending = false) :
    ∀ request ∈ (attempt requests value).1, request.isMerge = true := by
  induction requests generalizing value with
  | nil =>
      intro request present
      cases present
  | cons head rest ih =>
      by_cases breaks : head.Breaks value
      · rw [attempt_cons_of_breaks rest breaks]
        exact ih settled
      · rw [attempt_cons_of_obeys rest breaks]
        cases head with
        | accumulate policy part => exact absurd (Or.inr settled) breaks
        | finalize policy metric => exact absurd (Or.inl settled) breaks
        | merge policy metric incoming =>
            have stays : ((merge policy metric incoming).applied value).pending = false :=
              (policy.pending_merged metric value incoming).trans settled
            exact List.forall_mem_cons.mpr ⟨rfl, ih stays⟩

/-- A value that collects takes in parts, until it is finalized. -/
theorem attempt_of_pending (requests : List (Request α)) {value : MetricValue α}
    (pending : value.pending = true) :
    ∃ parts final merges : List (Request α),
      (attempt requests value).1 = parts ++ (final ++ merges) ∧
      (∀ request ∈ parts, request.isAccumulate = true) ∧
      (∀ request ∈ final, request.isFinalize = true) ∧ final.length ≤ 1 ∧
      (∀ request ∈ merges, request.isMerge = true) ∧ (final = [] → merges = []) := by
  induction requests generalizing value with
  | nil =>
      refine ⟨[], [], [], rfl, ?_, ?_, Nat.zero_le 1, ?_, fun _ => rfl⟩
      all_goals
        intro request present
        cases present
  | cons head rest ih =>
      by_cases breaks : head.Breaks value
      · rw [attempt_cons_of_breaks rest breaks]
        exact ih pending
      · rw [attempt_cons_of_obeys rest breaks]
        cases head with
        | accumulate policy part =>
            have stays : ((accumulate policy part).applied value).pending = true :=
              (policy.pending_accumulated value part).trans pending
            obtain ⟨parts, final, merges, shape, accumulates, others⟩ := ih stays
            refine ⟨accumulate policy part :: parts, final, merges, ?_,
              List.forall_mem_cons.mpr ⟨rfl, accumulates⟩, others⟩
            exact congrArg (accumulate policy part :: ·) shape
        | finalize policy metric =>
            have settles : ((finalize policy metric).applied value).pending = false :=
              policy.pending_finalized metric value
            refine ⟨[], [finalize policy metric], _, rfl, ?_, ?_, Nat.le_refl 1,
              attempt_of_settled rest settles, fun absent => nomatch absent⟩
            · intro request present
              cases present
            · intro request present
              rw [List.mem_singleton.mp present]
              rfl
        | merge policy metric incoming =>
            exact absurd (Or.inl (Or.inl pending)) breaks

/-! ### Division -/

variable {divide : α → α → α}

/-- What a request makes of a value is settled by division by numbers of elements alone. -/
theorem applied_withDivision
    (agrees : ∀ value count, 1 ≤ count →
      divide value (Scalar.ofCount count) = value / Scalar.ofCount count)
    {request : Request α} {value : MetricValue α} (obeys : ¬ request.Breaks value) :
    @applied α (Scalar.withDivision divide) value request = request.applied value := by
  cases request with
  | accumulate policy part => cases policy <;> rfl
  | finalize policy metric =>
      have covers : 1 ≤ value.count := Nat.one_le_iff_ne_zero.mpr (not_or.mp obeys).2
      cases policy with
      | average =>
          have quotient := agrees value.value value.count covers
          change _ = Policy.average.finalized metric value
          rw [Policy.finalized, ← quotient]
          rfl
      | worstOf => rfl
  | merge policy metric incoming =>
      have isFinal := MetricValue.final_of_not_unsettled (not_or.mp obeys).1
      cases policy with
      | average =>
          have quotient := agrees
            (value.value * Scalar.ofCount value.count +
              incoming.value * Scalar.ofCount incoming.count)
            (value.count + incoming.count) (Nat.le_add_right_of_le isFinal.covers)
          change _ = Policy.average.merged metric value incoming
          rw [Policy.merged, ← quotient]
          rfl
      | worstOf => rfl

theorem attempt_withDivision
    (agrees : ∀ value count, 1 ≤ count →
      divide value (Scalar.ofCount count) = value / Scalar.ofCount count)
    (requests : List (Request α)) (value : MetricValue α) :
    @attempt α (Scalar.withDivision divide) requests value = attempt requests value := by
  induction requests generalizing value with
  | nil => rfl
  | cons request rest ih =>
      by_cases breaks : request.Breaks value
      · rw [attempt_cons_of_breaks rest breaks,
          @attempt_cons_of_breaks α (Scalar.withDivision divide) request value rest breaks]
        exact ih value
      · rw [attempt_cons_of_obeys rest breaks,
          @attempt_cons_of_obeys α (Scalar.withDivision divide) request value rest breaks,
          applied_withDivision agrees breaks, ih]

/-- A request is refused, and changes nothing, if and only if it breaks a rule. So of any requests
on a new value those that succeed are first to accumulate, then at most one to finalize and only
after it to merge, and the value has the elements that they bring. What dividing by no elements
gives makes no difference to any request. -/
theorem attempt_keeps_rules :
    (∀ (request : Request α) (value : MetricValue α),
      ((∃ fault changed, request.edit.run.run value = (.error fault, changed)) ↔
        request.Breaks value) ∧
      ∀ fault changed, request.edit.run.run value = (.error fault, changed) → changed = value) ∧
    (∀ (name : String) (requests : List (Request α)),
      (∃ parts final merges : List (Request α),
        (attempt requests (MetricValue.empty name)).1 = parts ++ (final ++ merges) ∧
        (∀ request ∈ parts, request.isAccumulate = true) ∧
        (∀ request ∈ final, request.isFinalize = true) ∧ final.length ≤ 1 ∧
        (∀ request ∈ merges, request.isMerge = true) ∧ (final = [] → merges = [])) ∧
      (attempt requests (MetricValue.empty name)).2.count =
        ((attempt requests (MetricValue.empty name)).1.map count).sum) ∧
    ∀ divide : α → α → α,
      (∀ value count, 1 ≤ count →
        divide value (Scalar.ofCount count) = value / Scalar.ofCount count) →
      ∀ (requests : List (Request α)) (value : MetricValue α),
        @attempt α (Scalar.withDivision divide) requests value = attempt requests value := by
  refine ⟨fails_iff, ?_, fun divide agrees requests value =>
    attempt_withDivision agrees requests value⟩
  intro name requests
  refine ⟨attempt_of_pending requests rfl, ?_⟩
  rw [count_attempt]
  exact Nat.zero_add _

/-- Requests on one value, half of which come at the wrong time or with nothing to count. -/
def hastyRequests : List (Request ℚ) :=
  let metric : Metric ℚ := { name := "lcom4", limit := .atMost 1 }
  let covering (count : Nat) : MetricValue ℚ := .final "lcom4" 3 count false
  [.finalize .average metric, .merge .average metric (covering 2),
    .accumulate .average (covering 0), .accumulate .average (covering 2),
    .accumulate .average (.empty "lcom4"), .accumulate .average (covering 3),
    .finalize .average metric, .finalize .worstOf metric,
    .accumulate .worstOf (covering 1), .merge .average metric (covering 4)]

/-- Division in which whatever is divided by zero gives a thousand. -/
def thousandByZero (value divisor : ℚ) : ℚ :=
  if divisor = 0 then 1000 else value / divisor

theorem hastyRequests_keep_rules :
    (∀ (value : ℚ) (count : Nat), 1 ≤ count →
      thousandByZero value (Scalar.ofCount count) = value / Scalar.ofCount count) ∧
    (attempt hastyRequests (MetricValue.empty "lcom4")).1.map count = [2, 3, 0, 4] ∧
    (attempt hastyRequests (MetricValue.empty "lcom4")).2.count = 9 ∧
    @attempt ℚ (Scalar.withDivision thousandByZero) hastyRequests (MetricValue.empty "lcom4") =
      attempt hastyRequests (MetricValue.empty "lcom4") := by
  have agrees (value : ℚ) (count : Nat) (covers : 1 ≤ count) :
      thousandByZero value (Scalar.ofCount count) = value / Scalar.ofCount count :=
    if_neg (Nat.cast_ne_zero.mpr (by omega))
  have succeeded :
      (attempt hastyRequests (MetricValue.empty "lcom4")).1.map count = [2, 3, 0, 4] := by
    decide +kernel
  obtain ⟨_, onNew, divides⟩ := @attempt_keeps_rules ℚ _
  refine ⟨agrees, succeeded, ?_, divides thousandByZero agrees hastyRequests _⟩
  rw [(onNew "lcom4" hastyRequests).2, succeeded]
  rfl

end Request

end CrateMetrics
