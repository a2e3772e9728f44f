/-
Event streams whose brackets match: brackets of classes do not lie in one another, brackets
of methods lie in those of classes, and all other events may come anywhere. A class may
open any number of brackets, and so may a method.
-/

import CrateMetrics.Event
import Mathlib.Data.List.Basic

namespace CrateMetrics

/-- Whether the event neither opens nor closes a bracket. -/
def Event.isPlain : Event → Bool
  | .field _ | .decision _ | .call _ | .access _ => true
  | .enterClass _ | .exitClass _ | .enterMethod _ | .exitMethod _ => false

/-- The bracket of a method with the events inside. -/
structure MethodSpan where
  name : String
  body : List Event
  plain : ∀ event ∈ body, event.isPlain = true

def MethodSpan.events (span : MethodSpan) : List Event :=
  .enterMethod span.name :: span.body ++ [.exitMethod span.name]

inductive ClassPart where
  | plain (event : Event) (isPlain : event.isPlain = true)
  | method (span : MethodSpan)

namespace ClassPart

def events : ClassPart → List Event
  | .plain event _ => [event]
  | .method span => span.events

def method? : ClassPart → Option MethodSpan
  | .plain _ _ => none
  | .method span => some span

end ClassPart

/-- The bracket of a class with what it consists of. -/
structure ClassSpan where
  name : String
  parts : List ClassPart

namespace ClassSpan

def events (span : ClassSpan) : List Event :=
  .enterClass span.name :: span.parts.flatMap ClassPart.events ++ [.exitClass span.name]

/-- The methods inside, in order. -/
def methods (span : ClassSpan) : List MethodSpan :=
  span.parts.filterMap ClassPart.method?

end ClassSpan

inductive StreamPart where
  | plain (event : Event) (isPlain : event.isPlain = true)
  | type (span : ClassSpan)

namespace StreamPart

def events : StreamPart → List Event
  | .plain event _ => [event]
  | .type span => span.events

def type? : StreamPart → Option ClassSpan
  | .plain _ _ => none
  | .type span => some span

end StreamPart

/-- A stream of events with matched brackets. -/
abbrev Stream := List StreamPart

namespace Stream

def events (stream : Stream) : List Event :=
  stream.flatMap StreamPart.events

/-- The brackets of classes, in order. -/
def classSpans (stream : Stream) : List ClassSpan :=
  stream.filterMap StreamPart.type?

/-- The names of the classes that are entered, each once, in the order of first entry. -/
def classNames (stream : Stream) : List String :=
  (stream.classSpans.map ClassSpan.name).eraseDups

/-- The methods in the brackets of the named class, in order. -/
def methodSpans (stream : Stream) (className : String) : List MethodSpan :=
  (stream.classSpans.filter (fun span => span.name == className)).flatMap ClassSpan.methods

end Stream

end CrateMetrics
