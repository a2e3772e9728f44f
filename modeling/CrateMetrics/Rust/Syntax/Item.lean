/-
The syntax of items: modules, types, traits, `impl` blocks and all else that may stand
outside of functions. Some forms are accepted that have no meaning in the language; these
are not looked into.
-/

import CrateMetrics.Rust.Syntax.Expression

namespace CrateMetrics.Rust.Syntax

open Scan Parse

/-! Visibility and signatures. -/

/-- How many tokens a visibility takes: `pub`, maybe with a restriction in brackets. -/
def visibilityLength (tokens : List Token) : Nat :=
  match tokens with
  | .word "pub" :: .group .round content :: _ =>
      match content with
      | [restriction] => if isWordOf ["crate", "self", "super"] [restriction] then 2 else 1
      | .word "in" :: path =>
          if isWhole path plainPath then 2 else 0
      | _ => 1
  | .word "pub" :: _ => 1
  | _ => 0

/-- A visibility, if there is one, and whether there is. A restriction to something that is
no path is refused. -/
def visibility : Parse Bool := do
  let tokens ← get
  if isWord "pub" tokens then
    let length := visibilityLength tokens
    require (length != 0)
    skip length
    return true
  else return false

def dropWord (name : String) (tokens : List Token) : List Token :=
  if isWord name tokens then tokens.drop 1 else tokens

def dropLinkage (tokens : List Token) : List Token :=
  if isWord "extern" tokens then
    let rest := tokens.drop 1
    if isText rest then rest.drop 1 else rest
  else tokens

/-- Whether a signature of a function starts here; the flag allows the word `safe`. -/
def isSignature (allowsSafe : Bool) (tokens : List Token) : Bool :=
  let afterAsync := dropWord "async" (dropWord "const" tokens)
  let afterSafety :=
    if allowsSafe && isWord "safe" afterAsync then afterAsync.drop 1
    else dropWord "unsafe" afterAsync
  isWord "fn" (dropLinkage afterSafety)

def isReceiver (tokens : List Token) : Bool :=
  let tokens :=
    if isSymbol "&" tokens then
      let rest := tokens.drop 1
      if isLifetime rest then rest.drop 1 else rest
    else tokens
  let tokens := if isWord "mut" tokens then tokens.drop 1 else tokens
  isWord "self" tokens && !isSymbol "::" (tokens.drop 1)

def receiver (grammar : Grammar) : Parse (List Code) := do
  if ← symbol? "&" then
    let _ ← lifetime?
    let _ ← word? "mut"
    word "self"
    return []
  else
    let _ ← word? "mut"
    word "self"
    if ← symbol? ":" then return (← grammar.type true).parts else return []

inductive ParameterKind where
  | receiver
  | typed
  | variadic
  deriving DecidableEq

def parameter (grammar : Grammar) : Parse (ParameterKind × List Code) := do
  if ← sees isReceiver then return (.receiver, ← receiver grammar)
  else if (← sees isName) && (← seesAfter 1 (isSymbol "<")) then
    return (.typed, (← grammar.type true).parts)
  else
    let element ← grammar.pattern
    symbol ":"
    if ← symbol? "..." then return (.variadic, element.parts)
    else return (.typed, element.parts ++ (← grammar.type true).parts)

/-- The parameters of a function. Only the first one may be a receiver, and nothing follows
a variadic one. -/
def parameters (grammar : Grammar) : Parse (List Code) := do
  let (_, parts) ← loop (true, []) (fun (isFirst, parts) => do
    if ← sees List.isEmpty then return ((isFirst, parts), false)
    else
      let attributes ← outerAttributes grammar
      let parts := parts ++ Attribute.values attributes
      let (kind, inner) ←
        if ← symbol? "..." then pure (.variadic, []) else parameter grammar
      require (kind != .receiver || isFirst)
      let parts := parts ++ inner
      if ← sees List.isEmpty then return ((false, parts), false)
      else
        symbol ","
        return ((false, parts), kind != .variadic))
  return parts

/-- The signature of a function: its name, and the expressions in it. The flag allows the
word `safe`, and the result tells whether it was there. -/
def signature (grammar : Grammar) (allowsSafe : Bool) :
    Parse (String × List Code × Bool) := do
  let _ ← word? "const"
  let _ ← word? "async"
  let safe ← if allowsSafe then word? "safe" else pure false
  if !safe then
    let _ ← word? "unsafe"
  let _ ← linkage?
  word "fn"
  let name ← name
  let (_, generics) ← generics grammar
  let inputs ← inside .round (parameters grammar)
  let output ← returnType grammar true
  let (_, conditions) ← whereClause grammar
  return (name, generics ++ (conditions ++ (inputs ++ output.parts)), safe)

def functionItem (grammar : Grammar) : Parse Item := do
  let _ ← visibility
  let _ ← signature grammar false
  if ← symbol? ";" then return .skipped
  else
    let (attributes, _) ← attributedBlock grammar
    return .function attributes

/-! Constants and aliases. -/

/-- A static. One without a type or without a value is not looked into. -/
def staticItem (grammar : Grammar) : Parse Item := do
  let _ ← visibility
  word "static"
  let _ ← word? "mut"
  let _ ← name
  if ← symbol? "=" then
    let _ ← grammar.expression true
    symbol ";"
    return .skipped
  else
    symbol ":"
    let type ← grammar.type true
    if ← symbol? ";" then return .skipped
    else
      symbol "="
      let value ← grammar.expression true
      symbol ";"
      return .declaration [] (type.parts ++ [value.code])

/-- A constant from its mark on: the expressions in its type and its value, and whether it
has generic parameters or conditions. -/
def constant (grammar : Grammar) : Parse (List Code × Option Code × Bool) := do
  word "const"
  let _ ← nameOr ["_"]
  let (isGeneric, _) ← generics grammar
  symbol ":"
  let type ← grammar.type true
  let value ← if ← symbol? "=" then some <$> grammar.expression true else pure none
  let (isConditional, _) ← whereClause grammar
  symbol ";"
  return (type.parts, value.map (·.code), isGeneric || isConditional)

/-- A constant. One with generic parameters or without a value is not looked into. -/
def constantItem (grammar : Grammar) : Parse Item := do
  let _ ← visibility
  match ← constant grammar with
  | (parts, some value, false) => return .declaration [] (parts ++ [value])
  | _ => return .skipped

inductive ConditionPlace where
  | beforeDefinition
  | afterDefinition
  | anywhere
  deriving DecidableEq

structure Alias where
  generics : List Code
  isBounded : Bool
  definition : Option (List Code)

def typeAlias (grammar : Grammar) (place : ConditionPlace) : Parse Alias := do
  let _ ← visibility
  word "type"
  let _ ← name
  let (_, parameters) ← generics grammar
  let isBounded ← symbol? ":"
  if isBounded then
    let _ ← separated
      (fun tokens => isWord "where" tokens || isSymbolIn ["=", ";"] tokens) "+"
      (grammar.bound false true)
  let (found, before) ←
    if place = .afterDefinition then pure (false, []) else whereClause grammar
  let definition ← if ← symbol? "=" then some <$> grammar.type true else pure none
  let (_, after) ←
    if place = .beforeDefinition || found then pure (false, []) else whereClause grammar
  symbol ";"
  return { generics := parameters ++ (before ++ after)
           isBounded
           definition := definition.map (·.parts) }

/-- An alias of a type. One with bounds or without a definition is not looked into. -/
def aliasItem (grammar : Grammar) : Parse Item := do
  let parsed ← typeAlias grammar .beforeDefinition
  match parsed.isBounded, parsed.definition with
  | false, some parts => return .declaration [] (parsed.generics ++ parts)
  | _, _ => return .skipped

/-! Imports and macros. -/

def externCrate : Parse Item := do
  let _ ← visibility
  word "extern"
  word "crate"
  let _ ← nameOr ["self"]
  if ← word? "as" then
    let _ ← nameOr ["_"]
  symbol ";"
  return .declaration [] []

def useGroup (grammar : Grammar) (allowsRoot : Bool) : Parse (Option (List UseTree)) := do
  let trees ← inside .curly (commaList (do
    let rooted ← if allowsRoot then symbol? "::" else pure false
    let tree ← grammar.useTree (allowsRoot && !rooted)
    return if rooted then none else tree))
  return trees.mapM id

def useTree (grammar : Grammar) (allowsRoot : Bool) : Parse (Option UseTree) := do
  if (← sees isName) || (← sees (isWordOf ["self", "super", "crate", "try"])) then
    let name ← anyWord
    if ← symbol? "::" then return (← grammar.useTree false).map (.path name)
    else if ← word? "as" then return some (.rename name (← nameOr ["_"]))
    else return some (.name name)
  else if ← symbol? "*" then return some .glob
  else return (← useGroup grammar allowsRoot).map .group

def useItem (grammar : Grammar) : Parse Item := do
  let _ ← visibility
  word "use"
  let rooted ← symbol? "::"
  let tree ← grammar.useTree (!rooted)
  symbol ";"
  match tree with
  | some tree => return .use [] tree
  | none => return .skipped

/-- A macro call as an item; the flag allows a name for what it defines. Only curly
brackets need no semicolon. -/
def macroCallItem (allowsName : Bool) : Parse Unit := do
  let _ ← plainPath
  symbol "!"
  if allowsName then
    let _ ← takeIf (fun tokens => isName tokens || isWord "try" tokens) 1
  let (bracket, _) ← anyGroup
  if bracket != .curly then symbol ";"

def macroDefinition : Parse Item := do
  let _ ← visibility
  word "macro"
  let _ ← name
  let _ ← takeIf (isGroup .round) 1
  let _ ← group .curly
  return .skipped

/-! Types. -/

/-- A named field and its name. The type of one without name may be given by its fields. -/
def namedField (grammar : Grammar) : Parse String := do
  let _ ← outerAttributes grammar
  let _ ← visibility
  let name ← nameOr ["_"]
  symbol ":"
  if name == "_" && ((← sees (isWord "struct")) ||
      ((← sees (isWord "union")) && (← seesAfter 1 (isGroup .curly)))) then
    skip 1
    let _ ← grammar.fields
  else
    let _ ← grammar.type true
  return name

def namedFields (grammar : Grammar) : Parse (List String) :=
  inside .curly (commaList (namedField grammar))

/-- Fields without names; their positions name them. -/
def positionalFields (grammar : Grammar) : Parse (List String) := do
  let fields ← inside .round (commaList (do
    let _ ← outerAttributes grammar
    let _ ← visibility
    grammar.type true))
  return (List.range fields.length).map toString

def structItem (grammar : Grammar) : Parse Item := do
  let _ ← visibility
  word "struct"
  let name ← name
  let _ ← generics grammar
  let (conditional, _) ← whereClause grammar
  if !conditional && (← sees (isGroup .round)) then
    let fields ← positionalFields grammar
    let _ ← whereClause grammar
    symbol ";"
    return .typeDeclaration [] name fields
  else if ← sees (isGroup .curly) then
    return .typeDeclaration [] name (← namedFields grammar)
  else
    symbol ";"
    return .typeDeclaration [] name []

def variant (grammar : Grammar) : Parse Unit := do
  let _ ← outerAttributes grammar
  let _ ← visibility
  let _ ← name
  if ← sees (isGroup .curly) then
    let _ ← namedFields grammar
  else if ← sees (isGroup .round) then
    let _ ← positionalFields grammar
  if ← symbol? "=" then
    let _ ← grammar.expression true

def enumItem (grammar : Grammar) : Parse Item := do
  let _ ← visibility
  word "enum"
  let name ← name
  let _ ← generics grammar
  let _ ← whereClause grammar
  let _ ← inside .curly (commaList (variant grammar))
  return .typeDeclaration [] name []

def unionItem (grammar : Grammar) : Parse Item := do
  let _ ← visibility
  word "union"
  let name ← name
  let _ ← generics grammar
  let _ ← whereClause grammar
  return .typeDeclaration [] name (← namedFields grammar)

/-! Modules and foreign blocks. -/

def bodyOf {β : Type} (grammar : Grammar) (element : Parse β) :
    Parse (List Attribute × List β) :=
  inside .curly (do
    let attributes ← innerAttributes grammar
    return (attributes, ← many (fun tokens => !tokens.isEmpty) element))

def moduleItem (grammar : Grammar) : Parse Item := do
  let _ ← visibility
  let _ ← word? "unsafe"
  word "mod"
  let name ← nameOr ["try"]
  if ← symbol? ";" then return .inlineModule [] name none
  else
    let (attributes, items) ← bodyOf grammar grammar.item
    return .inlineModule attributes name (some items)

def isMacroCall (tokens : List Token) : Bool :=
  isName tokens || isWordOf ["self", "super", "crate"] tokens || isSymbol "::" tokens

/-- A function without body in a foreign block. One with the word `safe` or with a body is
not looked into. -/
def foreignFunction (grammar : Grammar) : Parse (Option (List Code)) := do
  let _ ← visibility
  let (_, parts, safe) ← signature grammar true
  if ← sees (isGroup .curly) then
    let _ ← attributedBlock grammar
    return none
  else
    symbol ";"
    return if safe then none else some parts

/-- A static in a foreign block. One with a word for its safety or with a value is not
looked into. -/
def foreignStatic (grammar : Grammar) : Parse (Option (List Code)) := do
  let _ ← visibility
  let marked ← takeIf (isWordOf ["unsafe", "safe"]) 1
  word "static"
  let _ ← word? "mut"
  let _ ← name
  symbol ":"
  let type ← grammar.type true
  let valued ← symbol? "="
  if valued then
    let _ ← grammar.expression true
  symbol ";"
  return if marked || valued then none else some type.parts

def foreignItem (grammar : Grammar) : Parse (List Code) := do
  let attributes ← outerAttributes grammar
  let tokens ← get
  let ahead := tokens.drop (visibilityLength tokens)
  let parts ←
    if isSignature true ahead then foreignFunction grammar
    else if isWord "static" ahead ||
        (isWordOf ["unsafe", "safe"] ahead && isWord "static" (ahead.drop 1)) then
      foreignStatic grammar
    else if isWord "type" ahead then do
      let parsed ← typeAlias grammar .anywhere
      pure (if parsed.isBounded || parsed.definition.isSome then none
        else some parsed.generics)
    else do
      require (!isWord "pub" tokens && isMacroCall ahead)
      macroCallItem false
      pure (some [])
  match parts with
  | some parts => return Attribute.values attributes ++ parts
  | none => return []

def foreignBlock (grammar : Grammar) : Parse Item := do
  let _ ← word? "unsafe"
  require (← linkage?)
  let (attributes, items) ← bodyOf grammar (foreignItem grammar)
  return .declaration attributes items.flatten

/-! Traits and `impl` blocks. -/

def traitMethod (grammar : Grammar) (outer : List Attribute) : Parse (Option Method) := do
  let (name, _, _) ← signature grammar false
  if ← symbol? ";" then return none
  else
    let (inner, statements) ← attributedBlock grammar
    return some (.mk (outer ++ inner) name (.compound statements))

/-- An item of a trait; only methods with a body are kept. One with a visibility or the word
`default` is not looked into. -/
def traitItem (grammar : Grammar) : Parse (Option Method) := do
  let attributes ← outerAttributes grammar
  let visible ← visibility
  let defaulted ← word? "default"
  let tokens ← get
  let marked := visible || defaulted
  if isSignature false tokens then
    let method ← traitMethod grammar attributes
    return if marked then none else method
  else if isWord "const" tokens then
    let _ ← constant grammar
    return none
  else if isWord "type" tokens then
    let _ ← typeAlias grammar .afterDefinition
    return none
  else
    require (!marked && isMacroCall tokens)
    macroCallItem false
    return none

def traitRest (grammar : Grammar) (name : String) : Parse Item := do
  if ← symbol? ":" then
    let _ ← separated (fun tokens => isWord "where" tokens || isGroup .curly tokens) "+"
      (grammar.bound false true)
  let _ ← whereClause grammar
  let (attributes, methods) ← bodyOf grammar (traitItem grammar)
  return .traitDeclaration attributes name (methods.filterMap id)

def traitAliasRest (grammar : Grammar) (generics : List Code) : Parse Item := do
  symbol "="
  let bounds ← separated (fun tokens => isWord "where" tokens || isSymbol ";" tokens) "+"
    (grammar.bound false false)
  let (_, conditions) ← whereClause grammar
  symbol ";"
  return .declaration [] (generics ++ (conditions ++ bounds.flatMap (·.parts)))

def traitDefinition (grammar : Grammar) : Parse Item := do
  let _ ← visibility
  let isUnsafe ← word? "unsafe"
  let isAuto ← word? "auto"
  word "trait"
  let name ← name
  let (_, generics) ← generics grammar
  if !isUnsafe && !isAuto && (← sees (isSymbol "=")) then traitAliasRest grammar generics
  else traitRest grammar name

def implementedMethod (grammar : Grammar) (outer : List Attribute) :
    Parse (Option Method) := do
  let _ ← visibility
  let _ ← word? "default"
  let (name, _, _) ← signature grammar false
  if ← symbol? ";" then return none
  else
    let (inner, statements) ← attributedBlock grammar
    return some (.mk (outer ++ inner) name (.compound statements))

/-- An item of an `impl` block; only methods with a body are kept. -/
def implementedItem (grammar : Grammar) : Parse (Option Method) := do
  let attributes ← outerAttributes grammar
  let tokens ← get
  let afterVisibility := tokens.drop (visibilityLength tokens)
  let defaulted := isWord "default" afterVisibility && !isSymbol "!" (afterVisibility.drop 1)
  let ahead := if defaulted then afterVisibility.drop 1 else afterVisibility
  if isSignature false ahead then implementedMethod grammar attributes
  else if isWord "const" ahead then
    set ahead
    let _ ← constant grammar
    return none
  else if isWord "type" ahead then
    let _ ← visibility
    let _ ← word? "default"
    let _ ← typeAlias grammar .afterDefinition
    return none
  else
    require (!isWord "pub" tokens && !defaulted && isMacroCall ahead)
    macroCallItem false
    return none

/-- An `impl` block. One with a visibility, one of a constant trait and one of something
that is no trait are not looked into. -/
def implementation (grammar : Grammar) : Parse Item := do
  let visible ← visibility
  let _ ← word? "default"
  let _ ← word? "unsafe"
  word "impl"
  if ← sees opensGenerics then
    let _ ← generics grammar
  let isConst ← sees (fun tokens =>
    isWord "const" tokens || (isSymbol "?" tokens && isWord "const" (tokens.drop 1)))
  if isConst then
    let _ ← symbol? "?"
    word "const"
  let negative ← takeIf
    (fun tokens => isSymbol "!" tokens && !isGroup .curly (tokens.drop 1)) 1
  let first ← grammar.type true
  let ofTrait ← word? "for"
  require (ofTrait || !negative)
  let owner ← if ofTrait then grammar.type true else pure first
  let _ ← whereClause grammar
  let (attributes, methods) ← bodyOf grammar (implementedItem grammar)
  let namesOf (type : TypeCode) : Option (List String) :=
    match type.shape with
    | .path _ names => some names
    | _ => none
  if visible || isConst || (ofTrait && (namesOf first).isNone) then return .skipped
  else
    let traitName := if ofTrait then (namesOf first).bind List.getLast? else none
    return .implementation attributes (namesOf owner) traitName (methods.filterMap id)

/-! Items. -/

def withOuterAttributes (outer : List Attribute) : Item → Item
  | .typeDeclaration inner name fields => .typeDeclaration (outer ++ inner) name fields
  | .implementation inner owner traitName methods =>
      .implementation (outer ++ inner) owner traitName methods
  | .traitDeclaration inner name methods => .traitDeclaration (outer ++ inner) name methods
  | .inlineModule inner name items => .inlineModule (outer ++ inner) name items
  | .use inner tree => .use (outer ++ inner) tree
  | .function inner => .function (outer ++ inner)
  | .declaration inner parts => .declaration (outer ++ inner) parts
  | .skipped => .skipped

def externItem (grammar : Grammar) (ahead : List Token) : Parse Item :=
  if isWord "crate" (ahead.drop 1) then externCrate else foreignBlock grammar

def unsafeItem (grammar : Grammar) (ahead : List Token) : Parse Item := do
  let next := ahead.drop 1
  if isWord "trait" next || (isWord "auto" next && isWord "trait" (next.drop 1)) then
    traitDefinition grammar
  else if isWord "impl" next then implementation grammar
  else if isWord "extern" next then foreignBlock grammar
  else if isWord "mod" next then moduleItem grammar
  else failure

def bareItem (grammar : Grammar) : Parse Item := do
  let tokens ← get
  let ahead := tokens.drop (visibilityLength tokens)
  let next := ahead.drop 1
  if isSignature false ahead then functionItem grammar
  else if isWord "extern" ahead then externItem grammar ahead
  else if isWord "use" ahead then useItem grammar
  else if isWord "static" ahead then staticItem grammar
  else if isWord "const" ahead then constantItem grammar
  else if isWord "unsafe" ahead then unsafeItem grammar ahead
  else if isWord "mod" ahead then moduleItem grammar
  else if isWord "type" ahead then aliasItem grammar
  else if isWord "struct" ahead then structItem grammar
  else if isWord "enum" ahead then enumItem grammar
  else if isWord "union" ahead && isName next then unionItem grammar
  else if isWord "trait" ahead || (isWord "auto" ahead && isWord "trait" next) then
    traitDefinition grammar
  else if isWord "impl" ahead || (isWord "default" ahead && !isSymbol "!" next) then
    implementation grammar
  else if isWord "macro" ahead then macroDefinition
  else
    require (!isWord "pub" tokens && isMacroCall ahead)
    macroCallItem true
    return .declaration [] []

def item (grammar : Grammar) : Parse Item := do
  let attributes ← outerAttributes grammar
  return withOuterAttributes attributes (← bareItem grammar)

end CrateMetrics.Rust.Syntax
