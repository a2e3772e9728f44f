/-
Structured data as JSON, on one line and without blanks.
-/

import CrateMetrics.Decimal.Layout
import CrateMetrics.Report.Document

namespace CrateMetrics.Json

/-- Numbers are positional from 0.00001 up to sixteen digits; integral ones keep a zero after
the point. What is not finite has no number. -/
def numberLayout : Decimal.Layout :=
  { positional := some (-5, 15), plus := "+", notANumber := "null", infinity := "null" }

def numberText (number : Float) : String :=
  match Decimal.Binary.ofFloat number with
  | .finite _ _ _ => numberLayout.text number
  | .infinite _ | .notANumber => "null"

def quotedChar (c : Char) : List Char :=
  if c = '"' then ['\\', '"']
  else if c = '\\' then ['\\', '\\']
  else if c = '\n' then ['\\', 'n']
  else if c = '\r' then ['\\', 'r']
  else if c = '\t' then ['\\', 't']
  else if c.toNat = 8 then ['\\', 'b']
  else if c.toNat = 12 then ['\\', 'f']
  else if c.toNat < 16 then ['\\', 'u', '0', '0', '0'] ++ Nat.toDigits 16 c.toNat
  else if c.toNat < 32 then ['\\', 'u', '0', '0'] ++ Nat.toDigits 16 c.toNat
  else [c]

def quoted (text : String) : String :=
  String.ofList ('"' :: text.toList.flatMap quotedChar ++ ['"'])

mutual

def text : Document → String
  | .text value => quoted value
  | .number value => numberText value
  | .count value => toString value
  | .flag value => if value then "true" else "false"
  | .list elements => "[" ++ ",".intercalate (elementTexts elements) ++ "]"
  | .record fields => "\x7b" ++ ",".intercalate (fieldTexts fields) ++ "\x7d"

def elementTexts : List Document → List String
  | [] => []
  | element :: rest => text element :: elementTexts rest

def fieldTexts : List (String × Document) → List String
  | [] => []
  | (name, value) :: rest => (quoted name ++ ":" ++ text value) :: fieldTexts rest

end

end CrateMetrics.Json
