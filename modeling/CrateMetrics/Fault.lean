/-
What can go wrong while measuring, stated as causes. The wording of each is given in one
place, `Fault.message`.
-/

import CrateMetrics.Scope

namespace CrateMetrics

/-- A broken rule of aggregation. None is ever caused by the measured code. -/
inductive Breach where
  | neverFinalized (metric : String)
  | noElements (metric : String)
  | contributionAfterFinal (metric : String)
  | finalizedTwice (metric : String)
  | nothingToAverage (metric : String)
  | duplicateValue (scope : Scope) (owner metric : String)
  | misplacedChild (childScope : Scope) (child : String) (parentScope : Scope) (parent : String)
  deriving DecidableEq, Repr

inductive Misconfiguration where
  | noMetric (name : String)
  | noMeter (name : String)
  | missingMinimum (metric : String)
  | emptyRange (metric : String)
  | other (text : String)
  deriving DecidableEq, Repr

inductive Fault where
  /-- The source text of a unit is not Rust. -/
  | unparsable (unit text : String)
  | misconfigured (cause : Misconfiguration)
  | invariant (cause : Breach)
  | unreadable (path : String)
  | unwritable (path : String)
  /-- A configuration file is not TOML, or not about metrics. -/
  | malformed (path : String)
  deriving DecidableEq, Repr

def Breach.message : Breach → String
  | .neverFinalized metric => s!"`{metric}` was never finalized"
  | .noElements metric => s!"`{metric}` has no contributing elements"
  | .contributionAfterFinal metric =>
      s!"`{metric}` received a contribution after being finalized"
  | .finalizedTwice metric => s!"`{metric}` finalized twice"
  | .nothingToAverage metric => s!"`{metric}` cannot be averaged over zero elements"
  | .duplicateValue scope owner metric =>
      s!"{scope.title} `{owner}` already holds a value for `{metric}`"
  | .misplacedChild childScope child parentScope parent =>
      s!"{childScope.title} `{child}` cannot be a child of {parentScope.title} `{parent}`"

def Misconfiguration.message : Misconfiguration → String
  | .noMetric name => s!"no metric named `{name}`"
  | .noMeter name => s!"no parser measures `{name}`"
  | .missingMinimum metric => s!"{metric}: min verification needs a min bound"
  | .emptyRange metric => s!"{metric}: range verification needs min <= max"
  | .other text => text

def Fault.message : Fault → String
  | .unparsable unit text => s!"failed to parse {unit}: {text}"
  | .misconfigured cause => s!"invalid configuration: {cause.message}"
  | .invariant cause => s!"aggregation invariant violated: {cause.message}"
  | .unreadable path => s!"cannot read {path}"
  | .unwritable path => s!"cannot write {path}"
  | .malformed path => s!"{path} is not a configuration"

/-- Whether the failure concerns the text of one unit only, so that a run can go on. -/
def Fault.isUnparsable : Fault → Bool
  | .unparsable _ _ => true
  | _ => false

end CrateMetrics
