/-
Structured data, as reports are made of, before it is written in a format.
-/

namespace CrateMetrics

inductive Document where
  | text (value : String)
  | number (value : Float)
  | count (value : Nat)
  | flag (value : Bool)
  | list (elements : List Document)
  /-- Named fields in the order in which they are written. -/
  | record (fields : List (String × Document))
  deriving Repr

def Document.isList : Document → Bool
  | .list _ => true
  | .text _ | .number _ | .count _ | .flag _ | .record _ => false

end CrateMetrics
