/-
The syntax of types, of bounds and of generic parameters. All that is kept of them are the
expressions inside: array lengths, constant arguments and the bodies of macros.
-/

import CrateMetrics.Rust.Syntax.Path

namespace CrateMetrics.Rust.Syntax

open Scan Parse

/-! Generic parameters. -/

def lifetimeParameter : Parse Unit := do
  lifetime
  if ← symbol? ":" then
    let _ ← chain (isSymbolIn [",", ">"]) "+" lifetime

def typeParameter (grammar : Grammar) : Parse (List Code) := do
  skip 1
  let bounds ←
    if ← symbol? ":" then chain (isSymbolIn [",", ">", "="]) "+" (grammar.bound false true)
    else pure []
  let default ← if ← symbol? "=" then some <$> grammar.type true else pure none
  return bounds.flatMap (·.parts) ++ default.toList.flatMap (·.parts)

def constantParameter (grammar : Grammar) : Parse (List Code) := do
  word "const"
  let _ ← name
  symbol ":"
  let type ← grammar.type true
  let default ← if ← symbol? "=" then constantArgument grammar else pure []
  return type.parts ++ default

/-- A generic parameter with its attributes; the flag allows the name `_`. -/
def genericParameter (grammar : Grammar) (allowsBlank : Bool) : Parse (List Code) := do
  let attributes ← outerAttributes grammar
  let parts ←
    if ← sees isLifetime then
      lifetimeParameter
      pure []
    else if ← sees isName then typeParameter grammar
    else if ← sees (isWord "const") then constantParameter grammar
    else
      require allowsBlank
      word "_"
      pure []
  return Attribute.values attributes ++ parts

/-- Whether what an angle bracket opens here can only be generic parameters, and no qualified
type. A single name in brackets counts as a parameter. -/
def opensGenerics (tokens : List Token) : Bool :=
  let second := tokens.drop 1
  let third := tokens.drop 2
  isSymbol "<" tokens &&
    (isSymbolIn [">", "#"] second || isWord "const" second ||
      ((isLifetime second || isName second) &&
        (isSymbolIn [">", ",", "="] third || isColon third)))

def boundLifetimes (grammar : Grammar) : Parse (List Code) := do
  word "for"
  symbol "<"
  let parameters ← separated (isSymbol ">") "," (genericParameter grammar false)
  symbol ">"
  return parameters.flatten

def boundLifetimes? (grammar : Grammar) : Parse (Option (List Code)) := do
  if ← sees (isWord "for") then some <$> boundLifetimes grammar else return none

def generics (grammar : Grammar) : Parse (Bool × List Code) := do
  if ← symbol? "<" then
    let parameters ← separated (isSymbol ">") "," (genericParameter grammar true)
    symbol ">"
    return (true, parameters.flatten)
  else return (false, [])

def endsConditions (tokens : List Token) : Bool :=
  tokens.isEmpty || isGroup .curly tokens || isSymbolIn [",", ";", "="] tokens ||
    isColon tokens

def condition (grammar : Grammar) : Parse (List Code) := do
  if (← sees isLifetime) && (← seesAfter 1 (isSymbol ":")) then
    skip 2
    let _ ← chain (fun tokens => endsConditions tokens || isSymbol ":" tokens) "+" lifetime
    return []
  else
    let lifetimes ← boundLifetimes? grammar
    let type ← grammar.type true
    symbol ":"
    let bounds ← chain endsConditions "+" (grammar.bound false true)
    return lifetimes.getD [] ++ (type.parts ++ bounds.flatMap (·.parts))

/-- A `where` clause, if there is one, and whether there is. It has no generic parameters of
its own. -/
def whereClause (grammar : Grammar) : Parse (Bool × List Code) := do
  if ← word? "where" then
    require (!(← sees opensGenerics))
    let conditions ← chain endsConditions "," (condition grammar)
    return (true, conditions.flatten)
  else return (false, [])

/-! Bounds. -/

/-- Whether the last token read between two places is a group in curly brackets. -/
def lastIsBlock (before after : List Token) : Bool :=
  match before[before.length - after.length - 1]? with
  | some (.group .curly _) => true
  | _ => false

/-- The type that an arrow leads to; the flag allows bounds joined by plus signs. -/
def returnType (grammar : Grammar) (allowsPlus : Bool) : Parse TypeCode := do
  if ← symbol? "->" then grammar.type allowsPlus
  else return { parts := [] }

def functionArguments (grammar : Grammar) : Parse TypeCode := do
  let inputs ← inside .round (commaList (grammar.type true))
  let output ← returnType grammar false
  return {
    parts := inputs.flatMap (·.parts) ++ output.parts
    endsWithBlock := output.endsWithBlock }

def constMark : Parse Bool := do
  if ← sees (isGroup .square) then
    inside .square (word "const")
    return true
  else word? "const"

/-- A trait with what may stand before it, and whether it is looked into; only one that binds
no lifetimes may have a question mark. The flag allows the word `const`; such a bound is not
looked into. -/
def traitBound (grammar : Grammar) (allowsConst : Bool) : Parse (BoundCode × Bool) := do
  let lifetimes ← boundLifetimes? grammar
  let isConst ← constMark
  require (allowsConst || !isConst)
  if ← symbol? "?" then require lifetimes.isNone
  let trait ← path grammar false
  let takesArguments := trait.endsBare && ((← sees (isGroup .round)) ||
    ((← sees (isSymbol "::")) && (← seesAfter 2 (isGroup .round))))
  let arguments ←
    if takesArguments then
      let _ ← symbol? "::"
      functionArguments grammar
    else pure { parts := [] }
  let parts := if isConst then [] else lifetimes.getD [] ++ (trait.parts ++ arguments.parts)
  return ({ parts, kind := .trait, endsWithBlock := arguments.endsWithBlock }, !isConst)

def captured : Parse Unit := do
  if !(← lifetime?) then
    let _ ← nameOr ["Self"]

/-- A bound; the flags allow captures and the word `const`. -/
def bound (grammar : Grammar) (allowsCapture allowsConst : Bool) : Parse BoundCode := do
  if ← lifetime? then return { parts := [], kind := .lifetime }
  else if ← word? "use" then
    require allowsCapture
    symbol "<"
    let _ ← separated (isSymbol ">") "," captured
    symbol ">"
    return { parts := [], kind := .capture }
  else
    let before ← get
    let reader := traitBound grammar allowsConst
    let (bound, isLookedInto) ←
      if ← sees (isGroup .round) then inside .round reader else reader
    if isLookedInto then return bound
    else return { bound with endsWithBlock := lastIsBlock before (← get) }

def isBoundStart (tokens : List Token) : Bool :=
  isAnyWord tokens || isSymbolIn ["::", "?"] tokens || isLifetime tokens ||
    isGroup .round tokens

/-- Bounds joined by plus signs, maybe one after the last; more than one if allowed. -/
def boundList (grammar : Grammar) (allowsPlus allowsCapture allowsConst : Bool) :
    Parse (List BoundCode) := do
  let first ← bound grammar allowsCapture allowsConst
  if !allowsPlus then return [first]
  else if ← symbol? "+" then
    let stop (tokens : List Token) :=
      !(isBoundStart tokens || (allowsConst && isGroup .square tokens))
    let rest ← chain stop "+" (bound grammar allowsCapture allowsConst)
    return first :: rest
  else return [first]

def traitList (grammar : Grammar) (allowsPlus allowsCapture allowsConst : Bool) :
    Parse TypeCode := do
  let bounds ← boundList grammar allowsPlus allowsCapture allowsConst
  require (bounds.any (fun bound => bound.kind = .trait))
  return {
    parts := bounds.flatMap (·.parts)
    endsWithBlock := BoundCode.listEndsWithBlock bounds }

def traitObject (grammar : Grammar) (allowsPlus : Bool) : Parse TypeCode := do
  let _ ← word? "dyn"
  traitList grammar allowsPlus false false

def furtherBounds (grammar : Grammar) : Parse (List BoundCode) :=
  many (isSymbol "+") (do
    symbol "+"
    bound grammar false false)

/-! Types. -/

def linkage? : Parse Bool := do
  if ← word? "extern" then
    let _ ← takeIf isText 1
    return true
  else return false

def isVariadic (tokens : List Token) : Bool :=
  isSymbol "..." tokens ||
    ((isName tokens || isWord "_" tokens) && isSymbol ":" (tokens.drop 1) &&
      isSymbol "..." (tokens.drop 2))

def isMutableSelf (tokens : List Token) : Bool :=
  isWord "mut" tokens && isWord "self" (tokens.drop 1)

/-- Whether a name and a colon are next; the flag allows the name `self`. -/
def isNaming (allowsSelf : Bool) (tokens : List Token) : Bool :=
  (isName tokens || isWord "_" tokens || (allowsSelf && isWord "self" tokens)) &&
    isColon (tokens.drop 1)

/-- A parameter of a function pointer, maybe with a name; the flag allows `self`. The words
`mut self` may stand before the type, or in its place; then it is not looked into. -/
def pointerParameter (grammar : Grammar) (allowsSelf : Bool) : Parse (List Code) := do
  let startsMutable ← takeIf (fun tokens => allowsSelf && isMutableSelf tokens) 1
  let isSelf ← sees (isWord "self")
  let isNamed ← takeIf (isNaming allowsSelf) 2
  if startsMutable && !isNamed then
    word "self"
    return []
  else if allowsSelf && !(isNamed && isSelf) && (← sees isMutableSelf) then
    skip 2
    return []
  else
    let type ← grammar.type true
    return if startsMutable then [] else type.parts

def pointerParameters (grammar : Grammar) : Parse (List Code) := do
  let (_, parts) ← loop (true, []) (fun (isFirst, parts) => do
    if ← sees List.isEmpty then return ((isFirst, parts), false)
    else
      let attributes ← outerAttributes grammar
      let parts := parts ++ Attribute.values attributes
      if ← sees isVariadic then
        if !(← sees (isSymbol "...")) then skip 2
        symbol "..."
        let _ ← symbol? ","
        return ((false, parts), false)
      else
        let parts := parts ++ (← pointerParameter grammar isFirst)
        if ← sees List.isEmpty then return ((false, parts), false)
        else
          symbol ","
          return ((false, parts), true))
  return parts

def functionPointer (grammar : Grammar) : Parse TypeCode := do
  let _ ← word? "unsafe"
  let _ ← linkage?
  word "fn"
  let parameters ← inside .round (pointerParameters grammar)
  let output ← returnType grammar false
  return { parts := parameters ++ output.parts, endsWithBlock := output.endsWithBlock }

inductive Bracketed where
  | whole (parts : List Code)
  /-- A bound that may be absent; more may follow after the brackets. -/
  | bound (bound : BoundCode)
  | type (type : TypeCode)

def bracketedType (grammar : Grammar) : Parse Bracketed := do
  if ← sees List.isEmpty then return .whole []
  else if ← sees isLifetime then return .whole (← traitObject grammar true).parts
  else if ← sees (isSymbol "?") then return .bound (← traitBound grammar false).1
  else
    let first ← grammar.type true
    if ← symbol? "," then
      let rest ← commaList (grammar.type true)
      return .whole (first.parts ++ rest.flatMap (·.parts))
    else return .type first

def roundType (grammar : Grammar) (allowsPlus : Bool) : Parse TypeCode := do
  match ← inside .round (bracketedType grammar) with
  | .whole parts => return { parts }
  | .bound first =>
      let rest ← furtherBounds grammar
      return {
        parts := first.parts ++ rest.flatMap (·.parts)
        shape := .bareBounds rest.isEmpty
        endsWithBlock := BoundCode.listEndsWithBlock (first :: rest) }
  | .type type =>
      let isBound := match type.shape with
        | .path _ _ => true
        | .bareBounds single => single
        | .other => false
      if allowsPlus && isBound && (← sees (isSymbol "+")) then
        let rest ← furtherBounds grammar
        return {
          parts := type.parts ++ rest.flatMap (·.parts)
          shape := .bareBounds false
          endsWithBlock := BoundCode.listEndsWithBlock rest }
      else return { parts := type.parts }

def bareBounds (grammar : Grammar) (parts : List Code) (allowsPlus : Bool) :
    Parse TypeCode := do
  if !allowsPlus then return { parts, shape := .bareBounds true }
  else if ← symbol? "+" then
    let rest ← chain (fun tokens => !isBoundStart tokens) "+" (bound grammar false false)
    return {
      parts := parts ++ rest.flatMap (·.parts)
      shape := .bareBounds false
      endsWithBlock := BoundCode.listEndsWithBlock rest }
  else return { parts, shape := .bareBounds true }

def namedType (grammar : Grammar) (lifetimes : Option (List Code)) (allowsPlus : Bool) :
    Parse TypeCode := do
  let (qualified, path) ← qualifiedPath grammar false
  if qualified then return { parts := path.parts }
  else if path.isBare && (← sees isBang) then
    skip 1
    let (bracket, code) ← macroBody grammar
    return { parts := [code], endsWithBlock := bracket = .curly }
  else if lifetimes.isSome || (allowsPlus && (← sees (isSymbol "+"))) then
    bareBounds grammar (lifetimes.getD [] ++ path.parts) allowsPlus
  else return { parts := path.parts, shape := .path path.rooted path.names }

def squareType (grammar : Grammar) : Parse (List Code) :=
  inside .square (do
    let element ← grammar.type true
    if ← symbol? ";" then return element.parts ++ [(← grammar.expression true).code]
    else return element.parts)

def pointerTarget (grammar : Grammar) : Parse TypeCode := do
  if !(← word? "const") then word "mut"
  grammar.type false

def isBuiltin (tokens : List Token) : Bool :=
  isWord "builtin" tokens && isSymbol "#" (tokens.drop 1)

/-- Something that is built into the compiler; its arguments are not looked into. -/
def builtin : Parse Unit := do
  word "builtin"
  symbol "#"
  let _ ← name
  let _ ← group .round

def isTypePathStart (tokens : List Token) : Bool :=
  isPathStart tokens || isSymbolIn ["::", "<"] tokens

/-- A type; the flag allows bounds joined by plus signs. -/
def type (grammar : Grammar) (allowsPlus : Bool) : Parse TypeCode := do
  let lifetimes ← boundLifetimes? grammar
  require (lifetimes.isNone || (← sees isPathStart) ||
    (← sees (isWordOf ["fn", "unsafe", "extern"])))
  if ← sees (isGroup .round) then roundType grammar allowsPlus
  else if ← sees (isWordOf ["fn", "unsafe", "extern"]) then
    let pointer ← functionPointer grammar
    return { pointer with parts := lifetimes.getD [] ++ pointer.parts }
  else if ← sees isBuiltin then
    builtin
    return { parts := [] }
  else if ← sees isTypePathStart then namedType grammar lifetimes allowsPlus
  else if ← word? "dyn" then
    let hidden ← symbol? "*"
    let before ← get
    let traits ← traitList grammar allowsPlus false false
    if hidden then return { parts := [], endsWithBlock := lastIsBlock before (← get) }
    else return traits
  else if ← sees (isGroup .square) then return { parts := ← squareType grammar }
  else if ← symbol? "*" then
    return { ← pointerTarget grammar with shape := .other }
  else if ← symbol? "&" then
    let _ ← lifetime?
    let _ ← word? "mut"
    return { ← grammar.type false with shape := .other }
  else if ← symbol? "!" then return { parts := [] }
  else if ← word? "impl" then traitList grammar allowsPlus true true
  else if ← word? "_" then return { parts := [] }
  else if ← sees isLifetime then traitObject grammar true
  else failure

end CrateMetrics.Rust.Syntax
