/-
The four scopes of measured code, from a single method to a whole project.
-/

namespace CrateMetrics

inductive Scope where
  | method
  /-- A struct, enum, union or trait with all of its `impl` blocks. -/
  | type
  | package
  | project
  deriving DecidableEq, Repr

def Scope.finer : Scope → Option Scope
  | .method => none
  | .type => some .method
  | .package => some .type
  | .project => some .package

def Scope.label : Scope → String
  | .method => "method"
  | .type => "class"
  | .package => "package"
  | .project => "project"

def Scope.title : Scope → String
  | .method => "Method"
  | .type => "Class"
  | .package => "Package"
  | .project => "Project"

end CrateMetrics
