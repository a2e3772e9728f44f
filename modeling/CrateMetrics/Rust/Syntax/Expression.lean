/-
The syntax of expressions. Binary operators are read by precedence; ranges and comparisons
do not chain, and what follows a cast is restricted.
-/

import CrateMetrics.Rust.Syntax.Pattern

namespace CrateMetrics.Rust.Syntax

open Scan Parse

/-! Blocks and control flow. -/

def Operand.blockLike (code : Code) : Operand :=
  { code, shape := .block }

/-- `if` with what follows it. Each `else if` is nested in the one before. -/
def ifExpression (grammar : Grammar) : Nat → Parse Code
  | 0 => failure
  | rounds + 1 => do
      word "if"
      let condition ← grammar.expression false
      let body ← block grammar
      let alternative ←
        if ← word? "else" then
          if ← sees (isWord "if") then some <$> ifExpression grammar rounds
          else some <$> block grammar
        else pure none
      return .conditional [] condition.code body alternative

/-- The block of a loop, with the values of the attributes inside of it. -/
def loopBody (grammar : Grammar) : Parse (List Code × Code) := do
  let (attributes, statements) ← attributedBlock grammar
  return (Attribute.values attributes, .compound statements)

def whileExpression (grammar : Grammar) : Parse Operand := do
  word "while"
  let condition ← grammar.expression false
  let (attributes, body) ← loopBody grammar
  return .blockLike (.whileLoop attributes condition.code body)

def forExpression (grammar : Grammar) : Parse Operand := do
  word "for"
  let element ← alternatives grammar
  word "in"
  let elements ← grammar.expression false
  let (attributes, body) ← loopBody grammar
  return .blockLike (.forLoop attributes element.parts elements.code body)

def loopExpression (grammar : Grammar) : Parse Operand := do
  word "loop"
  let (attributes, body) ← loopBody grammar
  return .blockLike (.endlessLoop attributes body)

/-- A block after its mark, if it has one, such as `unsafe`. -/
def markedBlock (grammar : Grammar) (mark : Option String) : Parse Operand := do
  match mark with
  | none => pure ()
  | some mark => word mark
  return .blockLike (← openBlock grammar)

def tryBlock (grammar : Grammar) : Parse Operand := do
  word "try"
  return .blockLike (← block grammar)

def asyncBlock (grammar : Grammar) : Parse Operand := do
  word "async"
  let _ ← word? "move"
  return { code := ← block grammar }

def labelled (grammar : Grammar) : Parse Operand := do
  lifetime
  symbol ":"
  if ← sees (isWord "while") then whileExpression grammar
  else if ← sees (isWord "for") then forExpression grammar
  else if ← sees (isWord "loop") then loopExpression grammar
  else markedBlock grammar none

def isBindingClosure (tokens : List Token) : Bool :=
  isWord "for" tokens && opensGenerics (tokens.drop 1)

/-! Operators. -/

def binaryOperators : List (String × Precedence) :=
  [("+=", .assignment), ("-=", .assignment), ("*=", .assignment), ("/=", .assignment),
    ("%=", .assignment), ("^=", .assignment), ("&=", .assignment), ("|=", .assignment),
    ("<<=", .assignment), (">>=", .assignment), ("&&", .conjunction), ("||", .disjunction),
    ("<<", .shift), (">>", .shift), ("==", .comparison), ("<=", .comparison),
    ("!=", .comparison), (">=", .comparison), ("+", .sum), ("-", .sum), ("*", .product),
    ("/", .product), ("%", .product), ("^", .bitXor), ("&", .bitAnd), ("|", .bitOr),
    ("<", .comparison), (">", .comparison)]

def binaryOperator? (tokens : List Token) : Option (String × Precedence) :=
  binaryOperators.find? (fun (symbol, _) => isSymbol symbol tokens)

def isAssignment (tokens : List Token) : Bool :=
  isSymbol "=" tokens && !isSymbol "=>" tokens

def nextPrecedence? (tokens : List Token) : Option Precedence :=
  match binaryOperator? tokens with
  | some (_, precedence) => some precedence
  | none =>
      if isAssignment tokens then some .assignment
      else if isSymbol ".." tokens then some .range
      else if isWord "as" tokens then some .cast
      else none

/-- The right operand of an operator, with all that binds tighter. Assignments group from
the right. -/
def rightOperand (grammar : Grammar) (allowsStruct : Bool) (precedence : Precedence) :
    Parse Operand := do
  let first ← grammar.unary allowsStruct
  loop first (fun operand => do
    let tokens ← get
    match nextPrecedence? tokens with
    | none => return (operand, false)
    | some next =>
        if precedence.rank < next.rank || (next = .assignment && precedence = .assignment) then
          let longer ← grammar.continued operand allowsStruct next
          return (longer, (← get).length < tokens.length)
        else return (operand, false))

/-- The tokens after which a half-open range has no upper bound. -/
def endsRange (allowsStruct : Bool) (tokens : List Token) : Bool :=
  tokens.isEmpty || isDot tokens ||
    isSymbolIn [",", ";", "?", "=>", "=", "+", "/", "%", "^", ">", "<=", "!=", "-=", "*=",
      "&=", "|=", "<<="] tokens ||
    (!allowsStruct && isGroup .curly tokens) || isWord "as" tokens

def rangeExpression (grammar : Grammar) (allowsStruct : Bool) (lower : List Code) :
    Parse Operand := do
  let mark ← rangeMark false
  if mark = .halfOpen && (← sees (endsRange allowsStruct)) then
    return { code := .compound lower, shape := .range }
  else
    let upper ← rightOperand grammar allowsStruct .range
    return { upper with code := .compound (lower ++ [upper.code]), shape := .range }

def isBarredAfterCast (tokens : List Token) : Bool :=
  isDot tokens || isSymbol "?" tokens || isGroup .square tokens || isGroup .round tokens

def binaryOperation (symbol : String) (precedence : Precedence) (left right : Operand) :
    Operand :=
  { right with
    code := .binary symbol left.code right.code
    shape := if precedence = .comparison then .comparison else .plain }

def continued (grammar : Grammar) (operand : Operand) (allowsStruct : Bool)
    (lowest : Option Precedence) : Parse Operand :=
  let admits (precedence : Precedence) : Bool :=
    lowest.all (fun lowest => lowest.rank ≤ precedence.rank)
  loop operand (fun left => do
    let tokens ← get
    if left.shape = .range then return (left, false)
    else
      match binaryOperator? tokens with
      | some (symbol, precedence) =>
          if !admits precedence then return (left, false)
          else
            require (!(precedence = .comparison && left.shape = .comparison))
            skip symbol.length
            let right ← rightOperand grammar allowsStruct precedence
            return (binaryOperation symbol precedence left right, true)
      | none =>
          if admits .assignment && isAssignment tokens then
            skip 1
            let right ← rightOperand grammar allowsStruct .assignment
            let code := Code.operation left.code [right.code]
            return ({ right with code, shape := .plain }, true)
          else if admits .range && isSymbol ".." tokens then
            return (← rangeExpression grammar allowsStruct [left.code], true)
          else if admits .cast && isWord "as" tokens then
            skip 1
            let type ← grammar.type false
            require (!(← sees isBarredAfterCast))
            let code := Code.operation left.code type.parts
            return ({ code, castsToBlock := type.endsWithBlock }, true)
          else return (left, false))

/-! Atoms. -/

def isExpressionStart (tokens : List Token) : Bool :=
  (isAnyWord tokens && !isWord "as" tokens) || isGroup .round tokens ||
    isGroup .square tokens || isGroup .curly tokens || isLiteral tokens || isBang tokens ||
    (isSymbol "-" tokens && !isSymbolIn ["-=", "->"] tokens) ||
    (isSymbol "*" tokens && !isSymbol "*=" tokens) ||
    (isSymbol "|" tokens && !isSymbol "|=" tokens) ||
    (isSymbol "&" tokens && !isSymbol "&=" tokens) || isSymbol ".." tokens ||
    (isSymbol "<" tokens && !isSymbolIn ["<=", "<<="] tokens) || isSymbol "::" tokens ||
    isLifetime tokens || isSymbol "#" tokens

def fieldValue (grammar : Grammar) : Parse (List Code) := do
  let attributes ← outerAttributes grammar
  let values := Attribute.values attributes
  match ← member with
  | .inl _ =>
      if ← symbol? ":" then return values ++ [(← grammar.expression true).code]
      else return values
  | .inr _ =>
      symbol ":"
      return values ++ [(← grammar.expression true).code]

/-- The fields of a struct literal; the rest comes last. -/
def structFields (grammar : Grammar) : Parse (List Code) :=
  inside .curly (loop [] (fun parts => do
    if ← sees List.isEmpty then return (parts, false)
    else if ← symbol? ".." then
      if ← sees List.isEmpty then return (parts, false)
      else return (parts ++ [(← grammar.expression true).code], false)
    else
      let parts := parts ++ (← fieldValue grammar)
      if ← sees List.isEmpty then return (parts, false)
      else
        symbol ","
        return (parts, true)))

def pathExpression (grammar : Grammar) (allowsStruct : Bool) : Parse Operand := do
  let (qualified, path) ← qualifiedPath grammar true
  if !qualified && path.isBare && (← sees isBang) then
    skip 1
    let (bracket, code) ← macroBody grammar
    return { code, shape := if bracket = .curly then .curlyMacro else .plain }
  else if allowsStruct && (← sees (isGroup .curly)) then
    return { code := .compound (path.parts ++ (← structFields grammar)) }
  else if !qualified && !path.rooted && path.isBare && path.names = ["self"] then
    return { code := .selfValue [] }
  else return { code := .path path.names path.parts }

def roundExpression (grammar : Grammar) : Parse Operand :=
  inside .round (do
    if ← sees List.isEmpty then return { code := .compound [] }
    else
      let first ← grammar.expression true
      if ← sees List.isEmpty then return { code := .paren [] first.code }
      else
        symbol ","
        let rest ← commaList (grammar.expression true)
        return { code := .compound (first.code :: rest.map (·.code)) })

def squareExpression (grammar : Grammar) : Parse Operand :=
  inside .square (do
    if ← sees List.isEmpty then return { code := .compound [] }
    else
      let first ← grammar.expression true
      if ← symbol? ";" then
        let length ← grammar.expression true
        return { code := .compound [first.code, length.code] }
      else if ← sees List.isEmpty then return { code := .compound [first.code] }
      else
        symbol ","
        let rest ← commaList (grammar.expression true)
        return { code := .compound (first.code :: rest.map (·.code)) })

/-- A parameter of a closure, maybe with its type. Attributes before a pattern without type
stand in the place of those inside of it. -/
def closureParameter (grammar : Grammar) : Parse (List Code) := do
  let attributes ← outerAttributes grammar
  let values := Attribute.values attributes
  let element ← grammar.pattern
  if ← symbol? ":" then
    let type ← grammar.type true
    return values ++ (element.parts ++ type.parts)
  else
    match element.form with
    | .boxed => return []
    | .constant block => return values ++ block
    | .openRange | .other => return values ++ element.parts

def closure (grammar : Grammar) (allowsStruct : Bool) : Parse Operand := do
  let lifetimes ← boundLifetimes? grammar
  let _ ← word? "const"
  let _ ← word? "static"
  let _ ← word? "async"
  let _ ← word? "move"
  symbol "|"
  let inputs ← separated (isSymbol "|") "," (closureParameter grammar)
  symbol "|"
  let head := lifetimes.getD [] ++ inputs.flatten
  if ← symbol? "->" then
    let output ← grammar.type true
    let body ← block grammar
    return { code := .compound (head ++ (output.parts ++ [body])) }
  else
    let body ← grammar.expression allowsStruct
    return { body with code := .compound (head ++ [body.code]), shape := .plain }

def jumpValue (grammar : Grammar) : Parse Operand := do
  if ← sees isExpressionStart then
    let value ← grammar.expression true
    return { value with code := .compound [value.code], shape := .plain }
  else return { code := .compound [] }

/-- `break`, maybe with a label and a value. A labelled loop as value needs brackets. -/
def breakExpression (grammar : Grammar) (allowsStruct : Bool) : Parse Operand := do
  word "break"
  if ← lifetime? then require (!(← sees (isSymbol ":")))
  if allowsStruct || !(← sees (isGroup .curly)) then jumpValue grammar
  else return { code := .compound [] }

/-- An arm of `match`. Only the last one and those that end with a block need no comma. -/
def matchArm (grammar : Grammar) : Parse Arm := do
  let attributes ← outerAttributes grammar
  let pattern ← alternatives grammar
  let guard ← if ← word? "if" then some <$> grammar.expression true else pure none
  symbol "=>"
  let body ← grammar.complete
  if !(← symbol? ",") then
    require (body.shape = .block || (← sees List.isEmpty))
  return .mk (Attribute.values attributes) pattern.parts (guard.map (·.code)) body.code

def matchExpression (grammar : Grammar) : Parse Operand := do
  word "match"
  let scrutinee ← grammar.expression false
  inside .curly (do
    let attributes ← innerAttributes grammar
    let arms ← many (fun tokens => !tokens.isEmpty) (matchArm grammar)
    return .blockLike (.select (Attribute.values attributes ++ [scrutinee.code]) arms))

def letExpression (grammar : Grammar) (allowsStruct : Bool) : Parse Operand := do
  word "let"
  let pattern ← alternatives grammar
  symbol "="
  let first ← grammar.unary allowsStruct
  let value ← continued grammar first allowsStruct (some .comparison)
  return { value with code := .compound (pattern.parts ++ [value.code]), shape := .plain }

def becomeExpression (grammar : Grammar) : Parse Operand := do
  word "become"
  let _ ← grammar.expression true
  return { code := .skipped }

def isAsyncBlock (tokens : List Token) : Bool :=
  isWord "async" tokens && (isGroup .curly (tokens.drop 1) ||
    (isWord "move" (tokens.drop 1) && isGroup .curly (tokens.drop 2)))

def isClosure (tokens : List Token) : Bool :=
  isSymbol "|" tokens || isWordOf ["move", "static"] tokens || isBindingClosure tokens ||
    (isWord "const" tokens && !isGroup .curly (tokens.drop 1)) ||
    (isWord "async" tokens &&
      (isSymbol "|" (tokens.drop 1) || isWord "move" (tokens.drop 1)))

def isPathExpression (tokens : List Token) : Bool :=
  isValuePathStart tokens ||
    (isWord "try" tokens && isSymbolIn ["!", "::"] (tokens.drop 1))

def atom (grammar : Grammar) (allowsStruct : Bool) : Parse Operand := do
  let tokens ← get
  if isLiteral tokens then
    literal
    return { code := .compound [] }
  else if isAsyncBlock tokens then asyncBlock grammar
  else if isWord "try" tokens && isGroup .curly (tokens.drop 1) then tryBlock grammar
  else if isClosure tokens then closure grammar allowsStruct
  else if isBuiltin tokens then
    builtin
    return { code := .skipped }
  else if isPathExpression tokens then pathExpression grammar allowsStruct
  else if isGroup .round tokens then roundExpression grammar
  else if isWord "break" tokens then breakExpression grammar allowsStruct
  else if isWord "continue" tokens then
    skip 1
    let _ ← lifetime?
    return { code := .compound [] }
  else if isWordOf ["return", "yield"] tokens then
    skip 1
    jumpValue grammar
  else if isWord "become" tokens then becomeExpression grammar
  else if isGroup .square tokens then squareExpression grammar
  else if isWord "let" tokens then letExpression grammar allowsStruct
  else if isWord "if" tokens then .blockLike <$> ifExpression grammar (tokens.length + 1)
  else if isWord "while" tokens then whileExpression grammar
  else if isWord "for" tokens then forExpression grammar
  else if isWord "loop" tokens then loopExpression grammar
  else if isWord "match" tokens then matchExpression grammar
  else if isWord "unsafe" tokens then markedBlock grammar (some "unsafe")
  else if isWord "const" tokens then markedBlock grammar (some "const")
  else if isGroup .curly tokens then markedBlock grammar none
  else if isSymbol ".." tokens then rangeExpression grammar allowsStruct []
  else if isWord "_" tokens then
    skip 1
    return { code := .compound [] }
  else if isLifetime tokens then labelled grammar
  else failure

/-! Calls, fields and the like. -/

def callArguments (grammar : Grammar) : Parse (List Code) := do
  let arguments ← inside .round (commaList (grammar.expression true))
  return arguments.map (·.code)

def splitDots (text : List Char) : List (List Char) × Bool :=
  let endsInDot := text.getLast? == some '.'
  let whole := if endsInDot then text.dropLast else text
  (whole.splitOn '.', endsInDot)

/-- Positions of nested tuple fields, as in `x.0.1`, where a single number stands after the
first dot. The flag tells that a further dot was taken with them. -/
def positions? (tokens : List Token) : Option (List Nat × Bool) :=
  match tokens with
  | .literal text :: _ => do
      let (pieces, endsInDot) := splitDots text.toList
      let positions ← pieces.mapM Number.indexOf?
      return (positions, endsInDot)
  | _ => none

def namedMember (grammar : Grammar) (base : Code) : Parse Code := do
  let name ← name
  if ← sees (isSymbol "::") then
    let generics ← genericArguments grammar
    let arguments ← callArguments grammar
    return .methodCall [] base name (generics ++ arguments)
  else if ← sees (isGroup .round) then
    return .methodCall [] base name (← callArguments grammar)
  else return .field [] base name

def afterDot (grammar : Grammar) (base : Code) : Parse Code := do
  match positions? (← get) with
  | some (positions, endsInDot) =>
      skip 1
      let nested := positions.foldl (fun base position => .field [] base (toString position)) base
      if !endsInDot then return nested
      else if ← word? "await" then return .compound [nested]
      else if ← sees isNumber then
        match ← member with
        | .inl _ => failure
        | .inr position => return .field [] nested (toString position)
      else namedMember grammar nested
  | none =>
      if ← word? "await" then return .compound [base]
      else namedMember grammar base

def trailers (grammar : Grammar) (operand : Operand) : Parse Operand :=
  loop operand (fun base => do
    let tokens ← get
    if isGroup .round tokens then
      let arguments ← callArguments grammar
      return ({ code := .call [] base.code arguments }, true)
    else if isDot tokens && base.shape != .range then
      skip 1
      return ({ code := ← afterDot grammar base.code }, true)
    else if isGroup .square tokens then
      let index ← inside .square (grammar.expression true)
      return ({ code := .compound [base.code, index.code] }, true)
    else if isSymbol "?" tokens && base.shape != .range then
      skip 1
      return ({ code := .propagation [] base.code }, true)
    else return (base, false))

/-! Whole expressions. -/

/-- An expression without binary operators; attributes before it belong to all of it. -/
def unary (grammar : Grammar) (allowsStruct : Bool) : Parse Operand := do
  let attributes ← outerAttributes grammar
  let values := Attribute.values attributes
  if ← symbol? "&" then
    let isRaw (tokens : List Token) : Bool :=
      isWord "raw" tokens && isWordOf ["mut", "const"] (tokens.drop 1)
    if ← takeIf isRaw 2 then
      let inner ← grammar.unary allowsStruct
      return { inner with code := .compound (values ++ [inner.code]), shape := .plain }
    else
      let _ ← word? "mut"
      let inner ← grammar.unary allowsStruct
      return { inner with code := .reference values inner.code, shape := .plain }
  else if ← sees (isSymbolIn ["*", "!", "-"]) then
    skip 1
    let inner ← grammar.unary allowsStruct
    return { inner with code := .compound (values ++ [inner.code]), shape := .plain }
  else
    let first ← atom grammar allowsStruct
    let operand ← trailers grammar first
    require (attributes.isEmpty || operand.shape != .range)
    return operand.withAttributes attributes

def continuedAsStatement (grammar : Grammar) (attributes : List Attribute)
    (operand : Operand) : Parse Operand :=
  continued grammar (operand.withAttributes attributes) true none

/-- An expression as a statement or as the body of an arm: one that ends with a block is
complete unless a field, call or question mark follows. -/
def completeExpression (grammar : Grammar) : Parse Operand := do
  let attributes ← outerAttributes grammar
  let tokens ← get
  let first ←
    if isWord "if" tokens then .blockLike <$> ifExpression grammar (tokens.length + 1)
    else if isWord "while" tokens then whileExpression grammar
    else if isWord "for" tokens && !isBindingClosure tokens then forExpression grammar
    else if isWord "loop" tokens then loopExpression grammar
    else if isWord "match" tokens then matchExpression grammar
    else if isWord "try" tokens && isGroup .curly (tokens.drop 1) then tryBlock grammar
    else if isWord "unsafe" tokens then markedBlock grammar (some "unsafe")
    else if isWord "const" tokens && isGroup .curly (tokens.drop 1) then
      markedBlock grammar (some "const")
    else if isGroup .curly tokens then markedBlock grammar none
    else if isLifetime tokens then labelled grammar
    else unary grammar true
  if first.shape != .block then continuedAsStatement grammar attributes first
  else if (← sees isDot) || (← sees (isSymbol "?")) then
    continuedAsStatement grammar attributes (← trailers grammar first)
  else return first.withAttributes attributes

/-- An expression; the flag allows struct literals. -/
def expression (grammar : Grammar) (allowsStruct : Bool) : Parse Operand := do
  let first ← unary grammar allowsStruct
  continued grammar first allowsStruct none

end CrateMetrics.Rust.Syntax
