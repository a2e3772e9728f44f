/-
The syntax of patterns. All that is kept of them are the expressions inside: generic
arguments, constant blocks and the bodies of macros.
-/

import CrateMetrics.Rust.Syntax.Type

namespace CrateMetrics.Rust.Syntax

open Scan Parse

def isAlternative (tokens : List Token) : Bool :=
  isSymbol "|" tokens && !isSymbol "||" tokens && !isSymbol "|=" tokens

def alternatives (grammar : Grammar) : Parse PatternCode := do
  let led ← symbol? "|"
  let first ← grammar.pattern
  let rest ← many isAlternative (do
    symbol "|"
    grammar.pattern)
  if !led && rest.isEmpty then return first
  else return { parts := (first :: rest).flatMap (·.parts) }

inductive RangeMark where
  | halfOpen
  | closed
  deriving DecidableEq

/-- The mark of a range; the flag allows three dots. -/
def rangeMark (allowsDots : Bool) : Parse RangeMark := do
  if ← symbol? "..=" then return .closed
  else if ← symbol? "..." then
    require allowsDots
    return .closed
  else
    symbol ".."
    return .halfOpen

def endsRangePattern (tokens : List Token) : Bool :=
  tokens.isEmpty || isSymbolIn ["|", "=", ",", ";"] tokens || isColon tokens ||
    isWord "if" tokens

def isValuePathStart (tokens : List Token) : Bool :=
  isPathStart tokens || isSymbolIn ["::", "<"] tokens

def rangeBound (grammar : Grammar) : Parse PatternCode := do
  if ← sees isLiteral then
    literal
    return { parts := [] }
  else if ← sees isValuePathStart then
    return { parts := (← qualifiedPath grammar true).2.parts }
  else
    word "const"
    let (attributes, block) ← attributedBlock grammar
    return { parts := Attribute.values attributes ++ block, form := .constant block }

def rangePattern (grammar : Grammar) (lower : Option (List Code)) : Parse PatternCode := do
  let mark ← rangeMark lower.isSome
  if ← sees endsRangePattern then
    require (mark = .halfOpen)
    return { parts := lower.getD [], form := if lower.isSome then .openRange else .other }
  else
    let upper ← rangeBound grammar
    return { parts := lower.getD [] ++ upper.parts
             form := if lower.isNone then .openRange else .other }

def valuePattern (grammar : Grammar) : Parse PatternCode := do
  let lower ← rangeBound grammar
  if ← sees (isSymbol "..") then rangePattern grammar (some lower.parts) else return lower

def member : Parse (Sum String Nat) := do
  if ← sees isName then return .inl (← anyWord)
  else
    match ← get with
    | .literal text :: rest =>
        match Number.indexOf? text.toList with
        | some index =>
            set rest
            return .inr index
        | none => failure
    | _ => failure

def fieldPattern (grammar : Grammar) : Parse (List Code) := do
  let boxed ← word? "box"
  let borrowed ← word? "ref"
  let mutable ← word? "mut"
  if boxed || borrowed || mutable then
    let _ ← name
    return []
  else
    match ← member with
    | .inl _ => if ← symbol? ":" then return (← alternatives grammar).parts else return []
    | .inr _ =>
        symbol ":"
        return (← alternatives grammar).parts

/-- The fields of a struct pattern. Nothing follows the rest mark. -/
def structPattern (grammar : Grammar) : Parse (List Code) :=
  inside .curly (loop [] (fun parts => do
    if ← sees List.isEmpty then return (parts, false)
    else
      let attributes ← outerAttributes grammar
      let parts := parts ++ Attribute.values attributes
      if ← symbol? ".." then return (parts, false)
      else
        let parts := parts ++ (← fieldPattern grammar)
        if ← sees List.isEmpty then return (parts, false)
        else
          symbol ","
          return (parts, true)))

def patternList (grammar : Grammar) : Parse (List PatternCode) :=
  commaList (alternatives grammar)

def pathPattern (grammar : Grammar) : Parse PatternCode := do
  let (qualified, path) ← qualifiedPath grammar true
  if !qualified && path.isBare && (← sees isBang) then
    skip 1
    return { parts := [(← macroBody grammar).2] }
  else if ← sees (isGroup .curly) then
    return { parts := path.parts ++ (← structPattern grammar) }
  else if ← sees (isGroup .round) then
    let elements ← inside .round (patternList grammar)
    return { parts := path.parts ++ elements.flatMap (·.parts) }
  else if ← sees (isSymbol "..") then rangePattern grammar (some path.parts)
  else return { parts := path.parts }

def bindingPattern (grammar : Grammar) : Parse PatternCode := do
  let _ ← word? "ref"
  let _ ← word? "mut"
  let _ ← nameOr ["self"]
  if ← symbol? "@" then return { parts := (← grammar.pattern).parts }
  else return { parts := [] }

/-- A slice pattern. Ranges that are open at an end do not stand in it. -/
def slicePattern (grammar : Grammar) : Parse PatternCode := do
  let elements ← inside .square (patternList grammar)
  require (!elements.any (·.isOpenRange))
  return { parts := elements.flatMap (·.parts) }

def isPathPattern (tokens : List Token) : Bool :=
  let next := tokens.drop 1
  (isName tokens &&
    (isSymbolIn ["::", "!", ".."] next || isGroup .curly next || isGroup .round next)) ||
  (isWord "self" tokens && isSymbol "::" next) || isSymbolIn ["::", "<"] tokens ||
  isWordOf ["Self", "super", "crate"] tokens

def pattern (grammar : Grammar) : Parse PatternCode := do
  if ← sees isPathPattern then pathPattern grammar
  else if ← word? "_" then return { parts := [] }
  else if ← word? "box" then
    let _ ← grammar.pattern
    return { parts := [], form := .boxed }
  else if (← sees (isSymbol "-")) || (← sees isLiteral) || (← sees (isWord "const")) then
    valuePattern grammar
  else if (← sees isName) || (← sees (isWordOf ["ref", "mut", "self"])) then
    bindingPattern grammar
  else if ← symbol? "&" then
    let _ ← word? "mut"
    return { parts := (← grammar.pattern).parts }
  else if ← sees (isGroup .round) then
    let elements ← inside .round (patternList grammar)
    return { parts := elements.flatMap (·.parts) }
  else if ← sees (isGroup .square) then slicePattern grammar
  else if (← sees (isSymbol "..")) && !(← sees (isSymbol "...")) then rangePattern grammar none
  else failure

end CrateMetrics.Rust.Syntax
