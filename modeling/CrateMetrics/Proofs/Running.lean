/-
Runs one after the other: what they come to, and the faults they leave behind on the way.
-/

import CrateMetrics.Run
import Mathlib.Data.List.Basic

namespace CrateMetrics

variable {α β γ : Type}

/-! ### Lists of results -/

theorem mapM_eq_ok_map {run : β → Except Fault γ} {value : β → γ} {items : List β}
    (succeeds : ∀ item, item ∈ items → run item = .ok (value item)) :
    items.mapM run = .ok (items.map value) := by
  induction items with
  | nil => rfl
  | cons head rest ih =>
      rw [List.mapM_cons, succeeds head (List.Mem.head rest),
        ih (fun item present => succeeds item (List.Mem.tail head present))]
      rfl

theorem map_eq_map_of_mapM_eq_ok {δ : Type} {run : β → Except Fault γ} {before : β → δ}
    {after : γ → δ} (same : ∀ item value, run item = .ok value → after value = before item)
    {items : List β} {values : List γ} (succeeds : items.mapM run = .ok values) :
    values.map after = items.map before := by
  induction items generalizing values with
  | nil =>
      cases succeeds
      rfl
  | cons head rest ih =>
      rw [List.mapM_cons] at succeeds
      cases first : run head with
      | error fault =>
          rw [first] at succeeds
          cases succeeds
      | ok value =>
          cases others : rest.mapM run with
          | error fault =>
              rw [first, others] at succeeds
              cases succeeds
          | ok later =>
              rw [first, others] at succeeds
              cases succeeds
              rw [List.map_cons, List.map_cons, same head value first, ih others]

/-! ### Runs -/

namespace Run

theorem result_bind (run : Run α β) (next : β → Run α γ) :
    (run >>= next).result = run.result >>= fun value => (next value).result := by
  change (run.andThen next).result = _
  unfold andThen
  cases run.result with
  | error fault => rfl
  | ok value => rfl

theorem result_bind_of_ok {run : Run α β} {value : β} (came : run.result = .ok value)
    (next : β → Run α γ) : (run >>= next).result = (next value).result := by
  rw [result_bind, came]
  rfl

theorem failures_bind_of_ok {run : Run α β} {value : β} (came : run.result = .ok value)
    (next : β → Run α γ) : (run >>= next).failures = run.failures ++ (next value).failures := by
  change (run.andThen next).failures = _
  unfold andThen
  rw [came]
  exact List.filterMap_append

theorem failures_bind_of_silent (run : Run α β) {next : β → Run α γ}
    (silent : ∀ value, (next value).failures = []) : (run >>= next).failures = run.failures := by
  cases came : run.result with
  | ok value => rw [failures_bind_of_ok came, silent, List.append_nil]
  | error fault =>
      change (run.andThen next).failures = _
      unfold andThen
      rw [came]
      rfl

theorem failures_of_silent {run : Run α β} (silent : ∀ fault, .failed fault ∉ run.notes) :
    run.failures = [] := by
  rw [failures, List.filterMap_eq_nil_iff]
  intro remark present
  cases remark with
  | failed fault => exact absurd present (silent fault)
  | _ => rfl

theorem failures_gather (order : List Nat) (runs : List (Run α β)) :
    (gather order runs).failures =
      order.flatMap (fun position => (runs[position]?).elim [] failures) := by
  change List.filterMap _ (order.flatMap _) = _
  rw [List.filterMap_flatMap]
  congr 1
  funext position
  cases runs[position]? with
  | none => rfl
  | some run => rfl

theorem mem_failures_bind {run : Run α β} {next : β → Run α γ} {fault : Fault}
    (failed : fault ∈ (run >>= next).failures) :
    fault ∈ run.failures ∨ ∃ value, fault ∈ (next value).failures := by
  change fault ∈ (run.andThen next).failures at failed
  unfold andThen at failed
  cases came : run.result with
  | error _ =>
      rw [came] at failed
      exact Or.inl failed
  | ok value =>
      rw [came] at failed
      simp only [failures, List.filterMap_append, List.mem_append] at failed
      rcases failed with first | later
      · exact Or.inl first
      · exact Or.inr ⟨value, later⟩

theorem mem_failures_bind_of_first {run : Run α β} {fault : Fault}
    (failed : fault ∈ run.failures) (next : β → Run α γ) :
    fault ∈ (run >>= next).failures := by
  change fault ∈ (run.andThen next).failures
  unfold andThen
  cases run.result with
  | error _ => exact failed
  | ok value =>
      simp only [failures, List.filterMap_append, List.mem_append]
      exact Or.inl failed

theorem mem_failures_bind_of_next {run : Run α β} {value : β} (came : run.result = .ok value)
    {next : β → Run α γ} {fault : Fault} (failed : fault ∈ (next value).failures) :
    fault ∈ (run >>= next).failures := by
  change fault ∈ (run.andThen next).failures
  unfold andThen
  rw [came]
  simp only [failures, List.filterMap_append, List.mem_append]
  exact Or.inr failed

theorem failed_mem_of_mem_failures {run : Run α β} {fault : Fault}
    (failed : fault ∈ run.failures) : .failed fault ∈ run.notes := by
  obtain ⟨remark, present, isFault⟩ := List.mem_filterMap.mp failed
  cases remark with
  | failed other =>
      cases isFault
      exact present
  | _ => cases isFault

instance : LawfulMonad (Run α) :=
  LawfulMonad.mk' (Run α)
    (fun run => by
      change run.andThen _ = run
      obtain ⟨result, notes⟩ := run
      cases result with
      | error fault => rfl
      | ok value => exact congrArg (Run.mk (.ok value)) (List.append_nil notes))
    (fun value next => rfl)
    (fun run next last => by
      change (run.andThen next).andThen last = run.andThen (fun value => (next value).andThen last)
      obtain ⟨result, notes⟩ := run
      cases result with
      | error fault => rfl
      | ok value =>
          unfold andThen
          cases came : (next value).result with
          | error fault => simp only [came]
          | ok other => simp only [came, List.append_assoc])

theorem result_mapM (run : β → Run α γ) (items : List β) :
    (items.mapM run).result = items.mapM (fun item => (run item).result) := by
  induction items with
  | nil => rfl
  | cons head rest ih =>
      rw [List.mapM_cons, List.mapM_cons, result_bind]
      congr 1
      funext value
      rw [result_bind, ih]
      rfl

/-- Runs that all come to a result leave behind what each of them leaves, in their order. -/
theorem failures_mapM_of_ok {run : β → Run α γ} {items : List β} {values : List γ}
    (came : (items.mapM run).result = .ok values) :
    (items.mapM run).failures = items.flatMap (fun item => (run item).failures) := by
  induction items generalizing values with
  | nil => rfl
  | cons head rest ih =>
      rw [List.mapM_cons] at came ⊢
      rw [result_bind] at came
      cases first : (run head).result with
      | error fault =>
          rw [first] at came
          cases came
      | ok value =>
          rw [first] at came
          change (rest.mapM run >>= fun values => pure (value :: values)).result = _ at came
          rw [result_bind] at came
          cases others : (rest.mapM run).result with
          | error fault =>
              rw [others] at came
              cases came
          | ok later =>
              rw [failures_bind_of_ok first, failures_bind_of_silent _ (fun _ => rfl), ih others,
                List.flatMap_cons]

theorem mem_failures_mapM {run : β → Run α γ} {items : List β} {fault : Fault}
    (failed : fault ∈ (items.mapM run).failures) :
    ∃ item, item ∈ items ∧ fault ∈ (run item).failures := by
  induction items with
  | nil => cases failed
  | cons head rest ih =>
      rw [List.mapM_cons] at failed
      rcases mem_failures_bind failed with first | ⟨value, later⟩
      · exact ⟨head, List.Mem.head rest, first⟩
      · rcases mem_failures_bind later with others | ⟨values, silent⟩
        · obtain ⟨item, present, byItem⟩ := ih others
          exact ⟨item, List.Mem.tail head present, byItem⟩
        · cases silent

theorem mem_failures_mapM_of_mem {run : β → Run α γ} {value : β → γ} {items : List β}
    (succeeds : ∀ item, item ∈ items → (run item).result = .ok (value item)) {item : β}
    (present : item ∈ items) {fault : Fault} (failed : fault ∈ (run item).failures) :
    fault ∈ (items.mapM run).failures := by
  induction items with
  | nil => cases present
  | cons head rest ih =>
      rw [List.mapM_cons]
      cases present with
      | head => exact mem_failures_bind_of_first failed _
      | tail _ later =>
          apply mem_failures_bind_of_next (succeeds head (List.Mem.head rest))
          apply mem_failures_bind_of_first
          exact ih (fun item present => succeeds item (List.Mem.tail head present)) later

theorem mem_failures_gather_of_mem {order : List Nat} {runs : List (Run α β)} {position : Nat}
    {run : Run α β} (found : runs[position]? = some run) (worked : position ∈ order)
    {fault : Fault} (failed : fault ∈ run.failures) : fault ∈ (gather order runs).failures := by
  obtain ⟨remark, present, isFault⟩ := List.mem_filterMap.mp failed
  refine List.mem_filterMap.mpr ⟨remark, List.mem_flatMap.mpr ⟨position, worked, ?_⟩, isFault⟩
  rw [found]
  exact present

theorem mem_failures_gather {order : List Nat} {runs : List (Run α β)} {fault : Fault}
    (failed : fault ∈ (gather order runs).failures) :
    ∃ run, run ∈ runs ∧ fault ∈ run.failures := by
  obtain ⟨remark, present, isFault⟩ := List.mem_filterMap.mp failed
  obtain ⟨position, _, atPosition⟩ := List.mem_flatMap.mp present
  cases found : runs[position]? with
  | none =>
      rw [found] at atPosition
      cases atPosition
  | some run =>
      rw [found] at atPosition
      exact ⟨run, List.mem_of_getElem? found, List.mem_filterMap.mpr ⟨remark, atPosition, isFault⟩⟩

end Run

end CrateMetrics
