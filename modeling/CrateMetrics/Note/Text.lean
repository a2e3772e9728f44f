/-
The wording of remarks. Each takes one line, which begins with its importance.
-/

import CrateMetrics.Decimal.Layout
import CrateMetrics.Note
import CrateMetrics.Text.Quoted

namespace CrateMetrics

inductive Importance where
  | detail
  | progress
  | failure
  deriving DecidableEq, Repr

def Importance.label : Importance → String
  | .detail => "DEBUG"
  | .progress => "INFO"
  | .failure => "ERROR"

namespace Note

variable {α : Type}

def importance : Note α → Importance
  | .measuringPackage _ _ | .readingPackage _ => .progress
  | .failed _ => .failure
  | .analysingPackages _ | .readingFile _ | .measuringUnit _ | .decided _ _
  | .classMeasured _ _ _ _ | .related _ _ _ | .componentOpened _ | .componentJoined _
  | .componentsMerged _ _ => .detail

/-- Values in remarks have no exponent, and integral ones no decimal point. -/
def valueLayout : Decimal.Layout :=
  { marksIntegral := false, notANumber := "NaN", infinity := "inf" }

def message : Note Float → String
  | .analysingPackages count => s!"analysing {count} packages"
  | .measuringPackage name units => s!"measuring package {name} ({units} units)"
  | .readingPackage name => s!"reading crate {name}"
  | .readingFile path => s!"reading {path}"
  | .measuringUnit name => s!"measuring {name}"
  | .failed fault => fault.message
  | .decided kind method => s!"{kind.label} in {method}"
  | .classMeasured metric className value count =>
      s!"{metric} of {className}: {valueLayout.text value} over {count} element(s)"
  | .related className left right => s!"{className}: {left} and {right} are related"
  | .componentOpened members => s!"new component {Text.quotedList members}"
  | .componentJoined members => s!"joined component {Text.quotedList members}"
  | .componentsMerged count members =>
      s!"consolidated {count} components into {Text.quotedList members}"

def line (remark : Note Float) : String :=
  s!"{remark.importance.label} {remark.message}"

end Note

end CrateMetrics
