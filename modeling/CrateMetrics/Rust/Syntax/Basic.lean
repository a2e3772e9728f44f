/-
The means of reading syntax from tokens: tests on the tokens ahead, steps that take them,
and the record of mutually dependent parts of the grammar.

A grammar is built in levels. Each level reads the outermost constructs of its kind and
leaves what is nested in them to the level below, so that no function here calls itself.
Every construct takes a token before it descends, hence as many levels as there are tokens
read everything.
-/

import CrateMetrics.Rust.Number
import CrateMetrics.Rust.Tree
import CrateMetrics.Scan

namespace CrateMetrics.Rust.Syntax

open Scan

abbrev Parse (β : Type) := Scan Token β

/-- Words that are no identifiers. -/
def keywords : List String :=
  ["_", "abstract", "as", "async", "await", "become", "box", "break", "const", "continue",
    "crate", "do", "dyn", "else", "enum", "extern", "false", "final", "fn", "for", "if",
    "impl", "in", "let", "loop", "macro", "match", "mod", "move", "mut", "override", "priv",
    "pub", "ref", "return", "Self", "self", "static", "struct", "super", "trait", "true",
    "try", "type", "typeof", "unsafe", "unsized", "use", "virtual", "where", "while",
    "yield"]

/-! Tests on the tokens ahead. -/

def isWord (name : String) : List Token → Bool
  | .word found :: _ => found == name
  | _ => false

def isWordOf (names : List String) : List Token → Bool
  | .word found :: _ => names.contains found
  | _ => false

def isAnyWord : List Token → Bool
  | .word _ :: _ => true
  | _ => false

def isName : List Token → Bool
  | .word found :: _ => !keywords.contains found
  | _ => false

/-- Whether the characters are next, with nothing between them. -/
def isSymbolOf : List Char → List Token → Bool
  | [], _ => true
  | [c], .punct found _ :: _ => found == c
  | c :: rest, .punct found true :: tokens => found == c && isSymbolOf rest tokens
  | _, _ => false

/-- Whether the punctuation is next; more may follow it directly. -/
def isSymbol (symbol : String) (tokens : List Token) : Bool :=
  isSymbolOf symbol.toList tokens

def isSymbolIn (symbols : List String) (tokens : List Token) : Bool :=
  symbols.any (fun symbol => isSymbol symbol tokens)

def isGroup (bracket : Bracket) : List Token → Bool
  | .group found _ :: _ => found == bracket
  | _ => false

def isLifetime : List Token → Bool
  | .lifetime _ :: _ => true
  | _ => false

def isNumber : List Token → Bool
  | .literal text :: _ =>
      match text.toList with
      | c :: _ => c.isDigit
      | [] => false
  | _ => false

def isLiteral : List Token → Bool
  | .literal _ :: _ => true
  | .word found :: _ => found == "true" || found == "false"
  | .punct '-' _ :: rest => isNumber rest
  | _ => false

/-- Whether a string literal without prefix for bytes or C is next. -/
def isText : List Token → Bool
  | .literal text :: _ =>
      match text.toList with
      | '"' :: _ | 'r' :: _ => true
      | _ => false
  | _ => false

/-- Whether a dot is next that is not part of a range. -/
def isDot (tokens : List Token) : Bool :=
  isSymbol "." tokens && !isSymbol ".." tokens

/-- Whether a colon is next that is not part of a path. -/
def isColon (tokens : List Token) : Bool :=
  isSymbol ":" tokens && !isSymbol "::" tokens

def isBang (tokens : List Token) : Bool :=
  isSymbol "!" tokens && !isSymbol "!=" tokens

namespace Parse

def word? (name : String) : Parse Bool :=
  takeIf (isWord name) 1

def word (name : String) : Parse Unit := do
  require (← word? name)

def anyWord : Parse String := do
  match ← get with
  | .word found :: rest =>
      set rest
      return found
  | _ => failure

def name : Parse String := do
  require (← sees isName)
  anyWord

def nameOr (words : List String) : Parse String := do
  require ((← sees isName) || (← sees (isWordOf words)))
  anyWord

def symbol? (symbol : String) : Parse Bool :=
  takeIf (isSymbol symbol) symbol.length

def symbol (symbol : String) : Parse Unit := do
  require (← symbol? symbol)

def lifetime? : Parse Bool :=
  takeIf isLifetime 1

def lifetime : Parse Unit := do
  require (← lifetime?)

def literal : Parse Unit := do
  require (← sees isLiteral)
  if ← sees (isSymbol "-") then skip 2 else skip 1

def anyGroup : Parse (Bracket × List Token) := do
  match ← get with
  | .group bracket content :: rest =>
      set rest
      return (bracket, content)
  | _ => failure

def group (bracket : Bracket) : Parse (List Token) := do
  let (found, content) ← anyGroup
  require (found == bracket)
  return content

def inside {β : Type} (bracket : Bracket) (parse : Parse β) : Parse β := do
  let content ← group bracket
  all content parse

/-- Elements with separators between them and maybe after the last one, up to where the
test holds. -/
def separated {β : Type} (stop : List Token → Bool) (separator : String)
    (element : Parse β) : Parse (List β) :=
  separatedBy stop (symbol separator) element

def commaList {β : Type} (element : Parse β) : Parse (List β) :=
  separated List.isEmpty "," element

/-- Elements with separators between them and maybe after the last one; they end where the
test holds or no separator follows. -/
def chain {β : Type} (stop : List Token → Bool) (separator : String)
    (element : Parse β) : Parse (List β) :=
  chainedBy stop (symbol? separator) element

end Parse

/-! What the parts of the grammar give. -/

inductive Precedence where
  | assignment
  | range
  | disjunction
  | conjunction
  | binding
  | comparison
  | bitOr
  | bitXor
  | bitAnd
  | shift
  | sum
  | product
  | cast
  deriving DecidableEq, Repr

def Precedence.rank : Precedence → Nat
  | .assignment => 1
  | .range => 2
  | .disjunction => 3
  | .conjunction => 4
  | .binding => 5
  | .comparison => 6
  | .bitOr => 7
  | .bitXor => 8
  | .bitAnd => 9
  | .shift => 10
  | .sum => 11
  | .product => 12
  | .cast => 13

inductive Shape where
  /-- Ends with a block and needs neither comma nor semicolon after it. -/
  | block
  | curlyMacro
  | range
  | comparison
  | plain
  deriving DecidableEq, Repr

structure Operand where
  code : Code
  shape : Shape := .plain
  /-- Whether it ends with a cast to a type that ends with a block. -/
  castsToBlock : Bool := false

def Operand.withAttributes (attributes : List Attribute) (operand : Operand) : Operand :=
  { operand with code := operand.code.withAttributes (Attribute.values attributes) }

inductive TypeShape where
  | path (rooted : Bool) (names : List String)
  /-- Bounds without `dyn`; `single` if it is only one. -/
  | bareBounds (single : Bool)
  | other
  deriving DecidableEq, Repr

structure TypeCode where
  parts : List Code
  shape : TypeShape := .other
  /-- Whether its last type is a macro call in curly brackets. Round brackets around the last
  bound are looked through, those around a type are not. -/
  endsWithBlock : Bool := false

inductive PatternForm where
  /-- A range that is open at an end. -/
  | openRange
  | boxed
  /-- A constant block, with the expressions in its statements. -/
  | constant (block : List Code)
  | other

structure PatternCode where
  parts : List Code
  form : PatternForm := .other

def PatternCode.isOpenRange (pattern : PatternCode) : Bool :=
  match pattern.form with
  | .openRange => true
  | .boxed | .constant _ | .other => false

inductive BoundKind where
  | trait
  | lifetime
  /-- `use<..>` -/
  | capture
  deriving DecidableEq, Repr

structure BoundCode where
  parts : List Code
  kind : BoundKind
  endsWithBlock : Bool := false

def BoundCode.listEndsWithBlock (bounds : List BoundCode) : Bool :=
  bounds.getLast?.any (·.endsWithBlock)

structure Grammar where
  /-- An expression; the flag allows struct literals. -/
  expression : Bool → Parse Operand
  unary : Bool → Parse Operand
  /-- What operators of at least the given precedence add to an operand. -/
  continued : Operand → Bool → Precedence → Parse Operand
  /-- An expression as a statement or as the body of an arm. -/
  complete : Parse Operand
  /-- A type; the flag allows bounds joined by plus signs. -/
  type : Bool → Parse TypeCode
  /-- A bound; the flags allow captures and the word `const`. -/
  bound : Bool → Bool → Parse BoundCode
  pattern : Parse PatternCode
  /-- The statements of a block. -/
  statements : Parse (List Code)
  item : Parse Item
  fields : Parse (List String)
  /-- A use tree, absent if it is accepted but not looked into; the flag allows paths that
  start with colons in its groups. -/
  useTree : Bool → Parse (Option UseTree)

def Grammar.empty : Grammar where
  expression _ := failure
  unary _ := failure
  continued _ _ _ := failure
  complete := failure
  type _ := failure
  bound _ _ := failure
  pattern := failure
  statements := failure
  item := failure
  fields := failure
  useTree _ := failure

end CrateMetrics.Rust.Syntax
