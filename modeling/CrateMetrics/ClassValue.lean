/-
The value of one metric for one class, as a metric derives it from the events of a unit.
-/

namespace CrateMetrics

/-- A class, its value, the number of elements the value covers, and the values of its
methods for metrics that have them. -/
structure ClassValue (α : Type) where
  name : String
  value : α
  count : Nat
  methods : List (String × α) := []
  deriving Repr

end CrateMetrics
