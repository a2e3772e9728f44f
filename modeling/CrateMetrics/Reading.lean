/-
One unit of code as the measuring engine sees it: its name, and the events of a walk over
it or the fault that kept it from being walked.
-/

import CrateMetrics.Event
import CrateMetrics.Note

namespace CrateMetrics

structure Reading where
  name : String
  events : Except Fault (List Event)
  deriving Repr

namespace Reading

/-- The events of the unit, `none` if its text does not parse. Other faults stand. -/
def events? (reading : Reading) : Except Fault (Option (List Event)) :=
  match reading.events with
  | .ok events => .ok (some events)
  | .error fault => if fault.isUnparsable then .ok none else .error fault

def failureNotes {α : Type} (reading : Reading) : List (Note α) :=
  match reading.events with
  | .ok _ => []
  | .error fault => if fault.isUnparsable then [.failed fault] else []

end Reading

end CrateMetrics
