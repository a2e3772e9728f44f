/-
The syntax of paths, with their generic arguments, and of attributes.
-/

import CrateMetrics.Rust.Syntax.Basic

namespace CrateMetrics.Rust.Syntax

open Scan Parse

structure PathCode where
  rooted : Bool
  names : List String
  parts : List Code := []
  /-- Whether no segment has generic arguments. -/
  isBare : Bool := true
  /-- Whether the last segment has no generic arguments. -/
  endsBare : Bool := true

def pathWords : List String :=
  ["super", "self", "Self", "crate"]

def isPathStart (tokens : List Token) : Bool :=
  isName tokens || isWordOf pathWords tokens

def plainNames : Parse (List String) := do
  let reversed ← loop [] (fun found => do
    require (← sees isPathStart)
    let found := (← anyWord) :: found
    return (found, ← symbol? "::"))
  return reversed.reverse

def plainPath : Parse PathCode := do
  let rooted ← symbol? "::"
  return { rooted, names := ← plainNames }

/-- The expressions in the tokens of a macro call: none unless the tokens read as
expressions between commas. -/
def macroArguments (grammar : Grammar) (content : List Token) : List Code :=
  match (commaList (grammar.expression true)).run content with
  | some (arguments, []) => arguments.map (·.code)
  | _ => []

def macroBody (grammar : Grammar) : Parse (Bracket × Code) := do
  let (bracket, content) ← anyGroup
  return (bracket, .macroCall [] (macroArguments grammar content))

def attributeForm (grammar : Grammar) : Parse AttributeForm := do
  match ← get with
  | .group _ content :: rest =>
      set rest
      return .list content
  | _ =>
      if ← symbol? "=" then
        let tokens ← get
        if isWhole tokens literal then
          set ([] : List Token)
          return .assigned (.compound [])
        else
          require (!(isSymbol "#" tokens && isGroup .square (tokens.drop 1)))
          return .assigned (← grammar.expression true).code
      else return .bare

def attributeContent (grammar : Grammar) : Parse Attribute := do
  if ← word? "unsafe" then
    return .mk false ["unsafe"] (← attributeForm grammar)
  else
    let path ← plainPath
    return .mk path.rooted path.names (← attributeForm grammar)

def outerAttributes (grammar : Grammar) : Parse (List Attribute) :=
  many (isSymbol "#") (do
    symbol "#"
    inside .square (attributeContent grammar))

def innerAttributes (grammar : Grammar) : Parse (List Attribute) :=
  many (fun tokens => isSymbol "#" tokens && isSymbol "!" (tokens.drop 1)) (do
    symbol "#"
    symbol "!"
    inside .square (attributeContent grammar))

def attributedBlock (grammar : Grammar) : Parse (List Attribute × List Code) :=
  inside .curly (do
    let attributes ← innerAttributes grammar
    return (attributes, ← grammar.statements))

def openBlock (grammar : Grammar) : Parse Code := do
  let (attributes, statements) ← attributedBlock grammar
  return .compound (Attribute.values attributes ++ statements)

def block (grammar : Grammar) : Parse Code := do
  return .compound (← inside .curly grammar.statements)

def constantArgument (grammar : Grammar) : Parse (List Code) := do
  if ← sees isLiteral then
    literal
    return []
  else if ← sees isName then
    skip 1
    return []
  else
    return [← openBlock grammar]

def isConstantArgument (tokens : List Token) : Bool :=
  isLiteral tokens || isGroup .curly tokens

/-- What follows the name of an associated type or constant among generic arguments. -/
def associatedArgument (grammar : Grammar) : Parse (List Code) := do
  if ← symbol? "=" then
    if ← sees isConstantArgument then constantArgument grammar
    else return (← grammar.type true).parts
  else if ← symbol? ":" then
    let bounds ← chain (isSymbolIn [",", ">"]) "+" (grammar.bound false true)
    return bounds.flatMap (·.parts)
  else return []

def genericArgument (grammar : Grammar) : Parse (List Code) := do
  if (← sees isLifetime) && !(← seesAfter 1 (isSymbol "+")) then
    lifetime
    return []
  else if ← sees isConstantArgument then constantArgument grammar
  else
    let argument ← grammar.type true
    match argument.shape with
    | .path false [_] => return argument.parts ++ (← associatedArgument grammar)
    | _ => return argument.parts

def genericArguments (grammar : Grammar) : Parse (List Code) := do
  let _ ← symbol? "::"
  symbol "<"
  let arguments ← separated (isSymbol ">") "," (genericArgument grammar)
  symbol ">"
  return arguments.flatten

/-- Whether generic arguments start here. In expressions they need colons before them, and
elsewhere an angle bracket does not open any that is part of a longer operator. -/
def opensArguments (inExpression : Bool) (tokens : List Token) : Bool :=
  (!inExpression && isSymbol "<" tokens && !isSymbolIn ["<=", "<<="] tokens) ||
    (isSymbol "::" tokens && isSymbol "<" (tokens.drop 2))

def pathSegment (grammar : Grammar) (inExpression : Bool) :
    Parse (String × Option (List Code)) := do
  if ← sees (isWordOf ["super", "self", "crate", "try"]) then
    return (← anyWord, none)
  else
    let name ← nameOr ["Self"]
    if opensArguments inExpression (← get) then
      return (name, some (← genericArguments grammar))
    else return (name, none)

def PathCode.ofSegments (rooted : Bool) (segments : List (String × Option (List Code))) :
    PathCode :=
  { rooted
    names := segments.map (·.1)
    parts := segments.flatMap (fun segment => segment.2.getD [])
    isBare := segments.all (fun segment => segment.2.isNone)
    endsBare := segments.getLast?.all (fun segment => segment.2.isNone) }

/-- A path with generic arguments. It ends before colons that a round bracket follows. -/
def path (grammar : Grammar) (inExpression : Bool) : Parse PathCode := do
  let rooted ← symbol? "::"
  let first ← pathSegment grammar inExpression
  let rest ← many
    (fun tokens => isSymbol "::" tokens && !isGroup .round (tokens.drop 2)) (do
      symbol "::"
      pathSegment grammar inExpression)
  return .ofSegments rooted (first :: rest)

def qualifiedPath (grammar : Grammar) (inExpression : Bool) : Parse (Bool × PathCode) := do
  if ← symbol? "<" then
    let qualified ← grammar.type true
    let trait ← if ← word? "as" then some <$> path grammar false else pure none
    symbol ">"
    symbol "::"
    let first ← pathSegment grammar inExpression
    let rest ← many (isSymbol "::") (do
      symbol "::"
      pathSegment grammar inExpression)
    let tail := PathCode.ofSegments true (first :: rest)
    match trait with
    | none => return (true, { tail with parts := qualified.parts ++ tail.parts })
    | some trait =>
        return (true,
          { rooted := trait.rooted
            names := trait.names ++ tail.names
            parts := qualified.parts ++ (trait.parts ++ tail.parts)
            isBare := trait.isBare && tail.isBare
            endsBare := tail.endsBare })
  else return (false, ← path grammar inExpression)

end CrateMetrics.Rust.Syntax
