/-
Units of Rust source text. A unit is one file together with the module that it defines;
reading it gives the events of a walk, or tells that its text is not Rust.
-/

import CrateMetrics.Reading
import CrateMetrics.Rust.Lexer
import CrateMetrics.Rust.Syntax.Statement
import CrateMetrics.Rust.Walk

namespace CrateMetrics

structure SourceUnit where
  name : String
  source : String
  module : List String := []

/-- What reads Rust text. How it puts into words that tokens make up no file is its own
matter. -/
class FrontEnd where
  refusal : List Rust.Token → String

/-- A front end of few words. -/
instance : FrontEnd where
  refusal _ := "unexpected token"

namespace SourceUnit

variable [FrontEnd]

/-- The syntax tree of the unit. Text that cannot be split into tokens is told apart from
tokens that make up no file. -/
def tree (unit : SourceUnit) : Except Fault Rust.SourceFile :=
  match Rust.Lexer.fileTokens? unit.source with
  | none => .error (.unparsable unit.name "cannot parse string into token stream")
  | some tokens =>
      match Rust.Syntax.file? tokens with
      | none => .error (.unparsable unit.name (FrontEnd.refusal tokens))
      | some file => .ok file

def events (unit : SourceUnit) : Except Fault (List Event) :=
  unit.tree.map (fun file => file.walk unit.module)

def read (unit : SourceUnit) : Reading :=
  { name := unit.name, events := unit.events }

end SourceUnit

end CrateMetrics
