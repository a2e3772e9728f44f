/-
Runs of the measuring engine: a result or a fault, together with the remarks left on the
way there. A run that fails keeps the remarks made before it failed.
-/

import CrateMetrics.Note

namespace CrateMetrics

structure Run (α β : Type) where
  result : Except Fault β
  notes : List (Note α) := []
  deriving Repr

variable {α : Type}

namespace Run

/-- Goes on with a result; a fault ends the run. -/
def andThen {β γ : Type} (run : Run α β) (next : β → Run α γ) : Run α γ :=
  match run.result with
  | .error fault => { result := .error fault, notes := run.notes }
  | .ok value =>
      let later := next value
      { result := later.result, notes := run.notes ++ later.notes }

instance : Monad (Run α) where
  pure value := { result := .ok value }
  bind := andThen

def report (notes : List (Note α)) : Run α Unit :=
  { result := .ok (), notes }

def note (remark : Note α) : Run α Unit :=
  report [remark]

def of {β : Type} (result : Except Fault β) : Run α β :=
  { result }

/-- The faults that did not end the run, in order. -/
def failures {β : Type} (run : Run α β) : List Fault :=
  run.notes.filterMap (fun
    | .failed fault => some fault
    | _ => none)

/-- Runs that do not depend on each other, worked off in the given order of positions.
The results are gathered in the order of the list whatever the order of work. -/
def gather {β : Type} (order : List Nat) (runs : List (Run α β)) : Run α (List β) :=
  { result := runs.mapM (fun run => run.result)
    notes := order.flatMap (fun position =>
      match runs[position]? with
      | none => []
      | some run => run.notes) }

end Run

end CrateMetrics
