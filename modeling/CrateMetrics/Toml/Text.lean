/-
The texts of a TOML document: white space, comments, strings in one line or several, and
keys.
-/

import CrateMetrics.Scan
import CrateMetrics.Text.Digits

namespace CrateMetrics.Toml

open Scan

abbrev Read (β : Type) := Scan Char β

def isNext (symbol : String) (left : List Char) : Bool :=
  symbol.toList.isPrefixOf left

def symbol? (symbol : String) : Read Bool :=
  takeIf (isNext symbol) symbol.length

def symbol (text : String) : Read Unit := do
  require (← symbol? text)

def blanks : Read Unit := do
  let _ ← takeWhile (fun c => c == ' ' || c == '\t')

def isPlain (c : Char) : Bool :=
  c == '\t' || (32 ≤ c.toNat && c.toNat != 127)

def newline? : Read Bool := do
  if ← symbol? "\n" then return true else symbol? "\r\n"

def comment? : Read Bool := do
  if ← symbol? "#" then
    let _ ← takeWhile isPlain
    return true
  else return false

def lineEnd : Read Unit := do
  if !(← sees List.isEmpty) then require (← newline?)

def lineRest : Read Unit := do
  blanks
  let _ ← comment?
  lineEnd

def gap : Read Unit := do
  let _ ← loop () (fun _ => do
    blanks
    if ← comment? then
      require (← newline?)
      return ((), true)
    else return ((), ← newline?))

/-! Strings. -/

def codePoint (digits : Nat) : Read Char := do
  let characters := (← get).take digits
  require (characters.length == digits && characters.all (CrateMetrics.Text.isDigitOf 16))
  skip digits
  let code := CrateMetrics.Text.numberOf 16 characters
  require code.isValidChar
  return Char.ofNat code

def escaped : Read Char := do
  let left ← get
  skip 1
  match left with
  | 'b' :: _ => return '\x08'
  | 'f' :: _ => return '\x0c'
  | 'n' :: _ => return '\n'
  | 'r' :: _ => return '\r'
  | 't' :: _ => return '\t'
  | '"' :: _ => return '"'
  | '\\' :: _ => return '\\'
  | 'u' :: _ => codePoint 4
  | 'U' :: _ => codePoint 8
  | _ => failure

def plainCharacter : Read Char := do
  match ← get with
  | c :: _ =>
      require (isPlain c)
      skip 1
      return c
  | [] => failure

def basicString : Read String := do
  let reversed ← loop [] (fun found => do
    if ← symbol? "\"" then return (found, false)
    else if ← symbol? "\\" then return ((← escaped) :: found, true)
    else return ((← plainCharacter) :: found, true))
  return String.ofList reversed.reverse

def literalString : Read String := do
  let text ← takeWhile (fun c => isPlain c && c != '\'')
  symbol "'"
  return String.ofList text

/-- The end of a string in several lines: three quotes, of which up to two more before them
belong to the string. Gives what belongs to it, or nothing if the string goes on. -/
def closing? (quote : Char) : Read (Option (List Char)) := do
  let quotes := ((← get).takeWhile (· == quote)).length
  if quotes < 3 then return none
  else
    let whole := min quotes 5
    skip whole
    return some (List.replicate (whole - 3) quote)

def startsWithLineEnd (left : List Char) : Bool :=
  let rest := left.dropWhile (fun c => c == ' ' || c == '\t')
  isNext "\n" rest || isNext "\r\n" rest

def swallowLineEnds : Read Unit :=
  loop () (fun _ => do
    blanks
    return ((), ← newline?))

/-- A string in several lines, after its opening quotes. A line end right after these is
dropped, and so are blanks and line ends after a backslash at the end of a line. -/
def multilineString (quote : Char) (escapes : Bool) : Read String := do
  let _ ← newline?
  let reversed ← loop [] (fun found => do
    match ← closing? quote with
    | some characters => return (characters ++ found, false)
    | none =>
        if ← newline? then return ('\n' :: found, true)
        else if escapes && (← sees (isNext "\\")) then
          skip 1
          if ← sees startsWithLineEnd then
            swallowLineEnds
            return (found, true)
          else return ((← escaped) :: found, true)
        else return ((← plainCharacter) :: found, true))
  return String.ofList reversed.reverse

def string : Read String := do
  if ← symbol? "\"\"\"" then multilineString '"' true
  else if ← symbol? "'''" then multilineString '\'' false
  else if ← symbol? "\"" then basicString
  else
    symbol "'"
    literalString

/-! Keys. -/

def isKeyPart (c : Char) : Bool :=
  c.isAlphanum || c == '_' || c == '-'

def simpleKey : Read String := do
  if ← symbol? "\"" then basicString
  else if ← symbol? "'" then literalString
  else
    let characters ← takeWhile isKeyPart
    require (!characters.isEmpty)
    return String.ofList characters

/-- How many segments a key may have, and how deep arrays and tables may nest. -/
def depthLimit : Nat := 79

def key : Read (List String) := do
  let reversed ← loop [] (fun found => do
    blanks
    let found := (← simpleKey) :: found
    blanks
    return (found, ← symbol? "."))
  require (reversed.length ≤ depthLimit)
  return reversed.reverse

end CrateMetrics.Toml
