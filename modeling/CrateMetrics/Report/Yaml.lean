/-
Structured data as YAML in block style. Fields of records are indented, elements of lists
are not.
-/

import CrateMetrics.Decimal.Layout
import CrateMetrics.Report.Document
import CrateMetrics.Report.YamlText

namespace CrateMetrics.Yaml

/-- Numbers are positional from 0.00001 up to sixteen digits; integral ones keep a zero after
the point. -/
def numberLayout : Decimal.Layout :=
  { positional := some (-5, 15), notANumber := ".nan", infinity := ".inf" }

def spaces (count : Nat) : String :=
  "".pushn ' ' count

/-- A document that stands on the line of its name or dash; `none` for the others. -/
def inline? (indent : Nat) : Document → Option String
  | .text value => some (scalar (indent + 2) value)
  | .number value => some (numberLayout.text value)
  | .count value => some (toString value)
  | .flag value => some (if value then "true" else "false")
  | .list elements => if elements.isEmpty then some "[]" else none
  | .record fields => if fields.isEmpty then some "\x7b\x7d" else none

mutual

/-- The lines of a document that stand below each other; `lead` begins the first of them, and
`indent` is the indentation of the others. -/
def lines (lead : String) (indent : Nat) : Document → List String
  | .list elements => elementLines lead indent elements
  | .record fields => fieldLines lead indent fields
  | .text _ | .number _ | .count _ | .flag _ => []

def elementLines (lead : String) (indent : Nat) : List Document → List String
  | [] => []
  | element :: rest =>
      (match inline? indent element with
        | some shown => [lead ++ "- " ++ shown]
        | none => lines (lead ++ "- ") (indent + 2) element) ++
      elementLines (spaces indent) indent rest

def fieldLines (lead : String) (indent : Nat) : List (String × Document) → List String
  | [] => []
  | (name, value) :: rest =>
      (match inline? indent value with
        | some shown => [lead ++ name ++ ": " ++ shown]
        | none =>
            let below := if value.isList then indent else indent + 2
            (lead ++ name ++ ":") :: lines (spaces below) below value) ++
      fieldLines (spaces indent) indent rest

end

def documentLines (document : Document) : List String :=
  match inline? 0 document with
  | some shown => [shown]
  | none => lines "" 0 document

/-- A line with a line feed, unless a line end of its text ends it already. -/
def endedLine (line : String) : String :=
  if line.toList.getLast?.any isBreak then line else line ++ "\n"

def text (document : Document) : String :=
  String.join ((documentLines document).map endedLine)

end CrateMetrics.Yaml
