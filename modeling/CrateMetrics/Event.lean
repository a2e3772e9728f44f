/-
What a walk over one unit of code reports, in order: the classes it enters and leaves,
their fields and methods, and inside of methods the decisions, calls and field accesses.
-/

import CrateMetrics.Text.Qualified

namespace CrateMetrics

inductive Decision where
  | branchIf
  | branchWhile
  | branchFor
  | branchLoop
  /-- An arm of a `match` after its first one. -/
  | matchArm
  /-- The `if` guard of a `match` arm. -/
  | guard
  | logicalAnd
  | logicalOr
  | propagate
  deriving DecidableEq, Repr

def Decision.label : Decision → String
  | .branchIf => "If"
  | .branchWhile => "While"
  | .branchFor => "For"
  | .branchLoop => "Loop"
  | .matchArm => "MatchArm"
  | .guard => "Guard"
  | .logicalAnd => "LogicalAnd"
  | .logicalOr => "LogicalOr"
  | .propagate => "Try"

inductive Receiver where
  /-- `self.name(..)` or `Self::name(..)`. -/
  | ownType
  /-- `owner::name(..)`; the owner of a free function is empty. -/
  | path (owner : String)
  /-- `expr.name(..)` for any other expression. -/
  | value
  deriving DecidableEq, Repr

structure Invocation where
  receiver : Receiver
  name : String
  deriving DecidableEq, Repr

/-- The text by which calls of the same method are recognised. -/
def Invocation.signature (call : Invocation) : String :=
  match call.receiver with
  | .ownType => s!"Self::{call.name}"
  | .path owner => if owner.isEmpty then call.name else s!"{owner}::{call.name}"
  | .value => s!".{call.name}"

/-- One report of a walk. A class may be entered several times: for its declaration and
for each of its `impl` blocks. -/
inductive Event where
  | enterClass (name : String)
  | exitClass (name : String)
  | field (name : String)
  | enterMethod (name : String)
  | exitMethod (name : String)
  | decision (kind : Decision)
  | call (invocation : Invocation)
  /-- A use of `self.name`. -/
  | access (name : String)
  deriving DecidableEq, Repr

end CrateMetrics
