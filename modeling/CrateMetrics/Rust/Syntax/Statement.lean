/-
The syntax of statements, and the grammar as a whole.
-/

import CrateMetrics.Rust.Syntax.Item

namespace CrateMetrics.Rust.Syntax

open Scan Parse

/-- A statement. It is complete, or needs a semicolon unless it ends the block. -/
structure Statement where
  code : Code
  isComplete : Bool := true

/-- The number of tokens before the mark of a macro call, if one is next. -/
def macroPathLength? (tokens : List Token) : Option Nat :=
  match plainPath.run tokens with
  | some (_, rest) => if isSymbol "!" rest then some (tokens.length - rest.length) else none
  | none => none

inductive MacroPlace where
  /-- It defines something by name. -/
  | item
  /-- It stands in curly brackets, and nothing goes on from it. -/
  | statement
  /-- It is part of an expression. -/
  | expression
  deriving DecidableEq

def macroPlace (tokens : List Token) : MacroPlace :=
  let body := tokens.drop 1
  let after := tokens.drop 2
  if isName body || isWord "try" body then .item
  else if isGroup .curly body && !(isDot after || isSymbol "?" after) then .statement
  else .expression

def macroStatement (grammar : Grammar) (attributes : List Attribute) (length : Nat) :
    Parse Statement := do
  skip (length + 1)
  let (_, code) ← macroBody grammar
  let _ ← symbol? ";"
  return { code := code.withAttributes (Attribute.values attributes) }

/-- The value of a `let` statement, and the block for the case that it does not match. A value
that ends with a block has no such case. -/
def initializer (grammar : Grammar) : Parse (List Code) := do
  if ← symbol? "=" then
    let before ← get
    let value ← grammar.expression true
    if value.castsToBlock || lastIsBlock before (← get) then return [value.code]
    else if ← word? "else" then return [value.code, ← block grammar]
    else return [value.code]
  else return []

def letStatement (grammar : Grammar) (attributes : List Attribute) : Parse Statement := do
  word "let"
  let element ← grammar.pattern
  let type ← if ← symbol? ":" then some <$> grammar.type true else pure none
  let value ← initializer grammar
  symbol ";"
  let parts := element.parts ++ (type.toList.flatMap (·.parts) ++ value)
  return { code := .compound (Attribute.values attributes ++ parts) }

def isConstantItem (tokens : List Token) : Bool :=
  let next := tokens.drop 1
  let third := tokens.drop 2
  if isWord "static" tokens then
    isWord "mut" next || isName next
  else
    isWord "const" tokens &&
      !(isGroup .curly next || isWordOf ["static", "move"] next || isSymbol "|" next ||
        (isWord "async" next && !isWordOf ["unsafe", "extern", "fn"] third))

def isItem (tokens : List Token) : Bool :=
  let next := tokens.drop 1
  isWordOf ["pub", "extern", "use", "fn", "mod", "type", "struct", "enum", "trait", "impl",
    "macro"] tokens || isConstantItem tokens ||
  (isWord "crate" tokens && !isSymbol "::" next) ||
  (isWord "unsafe" tokens && !isGroup .curly next) ||
  (isWord "async" tokens && isWordOf ["unsafe", "extern", "fn"] next) ||
  (isWord "union" tokens && isName next) ||
  (isWord "auto" tokens && isWord "trait" next) ||
  (isWord "default" tokens && isWordOf ["unsafe", "impl"] next)

def expressionStatement (grammar : Grammar) (attributes : List Attribute) :
    Parse Statement := do
  let operand ← grammar.complete
  let operand := operand.withAttributes attributes
  let endsItself := operand.shape = .block || operand.shape = .curlyMacro
  let isClosed ← symbol? ";"
  return { code := operand.code, isComplete := isClosed || endsItself }

def statement (grammar : Grammar) : Parse Statement := do
  let attributes ← outerAttributes grammar
  let tokens ← get
  let macroLength := macroPathLength? tokens
  let place := macroLength.map (fun length => macroPlace (tokens.drop length))
  match macroLength, place with
  | some length, some .statement => macroStatement grammar attributes length
  | _, _ =>
      if isWord "let" tokens then letStatement grammar attributes
      else if isItem tokens || place = some .item then
        let nested ← bareItem grammar
        return { code := .item (withOuterAttributes attributes nested) }
      else expressionStatement grammar attributes

/-- The statements of a block. Only the last one may lack a semicolon that it needs. -/
def statements (grammar : Grammar) : Parse (List Code) := do
  let reversed ← loop [] (fun found => do
    if ← symbol? ";" then return (found, true)
    else if ← sees List.isEmpty then return (found, false)
    else
      let next ← statement grammar
      require (next.isComplete || (← sees List.isEmpty))
      return (next.code :: found, true))
  return reversed.reverse

def nextLevel (grammar : Grammar) : Grammar where
  expression := Syntax.expression grammar
  unary := Syntax.unary grammar
  continued operand allowsStruct lowest :=
    Syntax.continued grammar operand allowsStruct (some lowest)
  complete := Syntax.completeExpression grammar
  type := Syntax.type grammar
  bound := Syntax.bound grammar
  pattern := Syntax.pattern grammar
  statements := Syntax.statements grammar
  item := Syntax.item grammar
  fields := Syntax.namedFields grammar
  useTree := Syntax.useTree grammar

def Grammar.ofDepth (depth : Nat) : Grammar :=
  Nat.repeat nextLevel depth .empty

def file (grammar : Grammar) : Parse SourceFile := do
  let attributes ← innerAttributes grammar
  let items ← many (fun tokens => !tokens.isEmpty) (item grammar)
  return { attributes, items }

def file? (tokens : List Token) : Option SourceFile :=
  ((all tokens (file (.ofDepth (Token.sizeOfAll tokens + 1)))).run []).map (·.1)

end CrateMetrics.Rust.Syntax
