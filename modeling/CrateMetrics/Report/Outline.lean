/-
Measurements as an indented outline, a line for each with its values. Violated values are
marked.
-/

import CrateMetrics.Decimal.Layout
import CrateMetrics.Measurement

namespace CrateMetrics.Outline

def scopeLabel : Scope → String
  | .method => "method"
  | .type => "type"
  | .package => "package"
  | .project => "project"

def valueText (value : MetricValue Float) : String :=
  " " ++ value.name ++ "=" ++ Decimal.twoPlaces value.value ++ (if value.violated then "!" else "")

def indentation (depth : Nat) : String :=
  "".pushn ' ' (2 * depth)

mutual

def lines (depth : Nat) : Measurement Float → List String
  | ⟨scope, name, values, children⟩ =>
      (indentation depth ++ scopeLabel scope ++ " " ++ name ++
        String.join (values.map valueText)) :: linesOfAll (depth + 1) children

def linesOfAll (depth : Nat) : List (Measurement Float) → List String
  | [] => []
  | child :: rest => lines depth child ++ linesOfAll depth rest

end

end CrateMetrics.Outline
