/-
Reading TOML documents: values, and the lines that set keys and open tables.
-/

import CrateMetrics.Toml.Scalar

namespace CrateMetrics.Toml

open Scan

def arrayElements (value : Read Value) : Read Value := do
  gap
  let elements ← separatedBy (isNext "]") (do
      symbol ","
      gap) (do
    let element ← value
    gap
    return element)
  symbol "]"
  return .array elements

def assignment (value : Read Value) : Read (List String × Value) := do
  let path ← key
  symbol "="
  blanks
  return (path, ← value)

def Entries.assignAt (path : List String) (value : Value) (entries : Entries) :
    Option Entries := do
  entries.assign none (← path.getLast?) value path.dropLast

/-- The entries of a table in braces, after the opening one. No comma follows the last. -/
def braceEntries (value : Read Value) : Read Value := do
  blanks
  if ← symbol? "\x7d" then return .table []
  else
    let entries ← loop [] (fun entries => do
      let (path, value) ← assignment value
      blanks
      match Entries.assignAt path value entries with
      | some entries => return (entries, ← symbol? ",")
      | none => failure)
    symbol "\x7d"
    return (Node.table .explicit entries).toValue

def simpleValue : Read Value := do
  if ← sees (fun left => isNext "\"" left || isNext "'" left) then .text <$> string
  else scalar

/-- A value; arrays and tables nest in so many levels at most. -/
def value : Nat → Read Value
  | 0 => simpleValue
  | depth + 1 => do
      if ← symbol? "[" then arrayElements (value depth)
      else if ← symbol? "\x7b" then braceEntries (value depth)
      else simpleValue

inductive Line where
  | empty
  | set (path : List String) (value : Value)
  | openTable (path : List String)
  | openElement (path : List String)

def line : Read Line := do
  blanks
  let found ←
    if ← sees (fun left => left.isEmpty || isNext "#" left || isNext "\n" left ||
        isNext "\r" left) then pure .empty
    else if ← symbol? "[[" then
      let path ← key
      symbol "]]"
      pure (.openElement path)
    else if ← symbol? "[" then
      let path ← key
      symbol "]"
      pure (.openTable path)
    else
      let (path, value) ← assignment (value depthLimit)
      pure (.set path value)
  lineRest
  return found

structure Document where
  entries : Entries := []
  current : List String := []

def Document.add (document : Document) : Line → Option Document
  | .empty => some document
  | .set path value => do
      let entries ← document.entries.descend (Entries.assignAt path value) document.current
      return { document with entries }
  | .openTable path => do
      let key ← path.getLast?
      let entries ← document.entries.descend (Entries.openTable key) path.dropLast
      return { entries, current := path }
  | .openElement path => do
      let key ← path.getLast?
      let entries ← document.entries.descend (Entries.openElement key) path.dropLast
      return { entries, current := path }

def document : Read Document :=
  loop {} (fun document => do
    if ← sees List.isEmpty then return (document, false)
    else
      match document.add (← line) with
      | some document => return (document, true)
      | none => failure)

/-- The table that a text describes; a byte order mark may start it. -/
def parse? (text : String) : Option (List (String × Value)) :=
  let characters :=
    match text.toList with
    | '\ufeff' :: rest => rest
    | all => all
  match document.run characters with
  | some (document, []) => some (Node.entryValues document.entries)
  | _ => none

end CrateMetrics.Toml
