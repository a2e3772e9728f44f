/-
Numbers, dates and truth values of a TOML document.
-/

import CrateMetrics.Decimal.Binary
import CrateMetrics.Toml.Text
import CrateMetrics.Toml.Value

namespace CrateMetrics.Toml

open Scan

/-! Numbers. -/

def digitTail (base : Nat) : List Char → List Char × List Char
  | [] => ([], [])
  | [c] => if Text.isDigitOf base c then ([c], []) else ([], [c])
  | c :: d :: rest =>
      if Text.isDigitOf base c then
        let (digits, after) := digitTail base (d :: rest)
        (c :: digits, after)
      else if c = '_' && Text.isDigitOf base d then digitTail base (d :: rest)
      else ([], c :: d :: rest)

def digits (base : Nat) : Read (List Char) := do
  require (← sees (fun left => left.head?.any (Text.isDigitOf base)))
  let (found, rest) := digitTail base (← get)
  set rest
  return found

def decimalDigits : Read (List Char) := do
  if ← symbol? "0" then return ['0'] else digits 10

def sign : Read Bool := do
  if ← symbol? "-" then return true
  else
    let _ ← symbol? "+"
    return false

def integer (negative : Bool) (magnitude : Nat) : Read Value := do
  require (magnitude < Nat.pow 2 63 || (negative && magnitude == Nat.pow 2 63))
  return .integer (if negative then -magnitude else magnitude)

def exponent? : Read (Option Int) := do
  if ← takeIf (fun left => isNext "e" left || isNext "E" left) 1 then
    let negative ← sign
    let magnitude := Text.numberOf 10 (← digits 10)
    return some (if negative then -(magnitude : Int) else magnitude)
  else return none

/-- A decimal number after its sign. Numbers too large for the format are refused. -/
def decimal (negative : Bool) : Read Value := do
  let whole ← decimalDigits
  let fraction ← if ← symbol? "." then some <$> digits 10 else pure none
  let exponent ← exponent?
  if fraction.isNone && exponent.isNone then integer negative (Text.numberOf 10 whole)
  else
    let places := fraction.getD []
    let mantissa := Text.numberOf 10 (whole ++ places)
    let number :=
      Decimal.nearestScaled negative mantissa (exponent.getD 0 - (places.length : Int))
    require (negative || !number.isInf)
    return .float number

def based (base : Nat) : Read Value := do
  integer false (Text.numberOf base (← digits base))

def infinity : Float := 1.0 / 0.0

def number : Read Value := do
  if ← symbol? "0x" then based 16
  else if ← symbol? "0o" then based 8
  else if ← symbol? "0b" then based 2
  else
    let negative ← sign
    if ← symbol? "inf" then return .float (if negative then -infinity else infinity)
    else if ← symbol? "nan" then return .float (0.0 / 0.0)
    else decimal negative

/-! Dates and times. -/

def fixedNumber (count low high : Nat) : Read Nat := do
  let found := (← get).take count
  require (found.length == count && found.all Char.isDigit)
  let number := Text.numberOf 10 found
  require (low ≤ number && number ≤ high)
  skip count
  return number

def daysOf (year month : Nat) : Nat :=
  if month = 2 then
    if year % 400 = 0 || (year % 4 = 0 && year % 100 ≠ 0) then 29 else 28
  else if month = 4 || month = 6 || month = 9 || month = 11 then 30
  else 31

def date : Read Unit := do
  let year ← fixedNumber 4 0 9999
  symbol "-"
  let month ← fixedNumber 2 1 12
  symbol "-"
  let _ ← fixedNumber 2 1 (daysOf year month)

/-- A time of day; a minute may have a leap second. -/
def time : Read Unit := do
  let _ ← fixedNumber 2 0 23
  symbol ":"
  let _ ← fixedNumber 2 0 59
  symbol ":"
  let _ ← fixedNumber 2 0 60
  if ← symbol? "." then
    require (← sees (fun left => left.head?.any Char.isDigit))
    let _ ← takeWhile Char.isDigit

def offset : Read Unit := do
  if ← takeIf (fun left => isNext "Z" left || isNext "z" left) 1 then return ()
  else if ← takeIf (fun left => isNext "+" left || isNext "-" left) 1 then
    let _ ← fixedNumber 2 0 23
    symbol ":"
    let _ ← fixedNumber 2 0 59

def isDigitsThen (count : Nat) (after : Char) (left : List Char) : Bool :=
  let digits := left.take count
  digits.length == count && digits.all Char.isDigit && left[count]? == some after

/-- Whether a time follows a date. A blank between them counts only if one does. -/
def isTimeAfterDate (left : List Char) : Bool :=
  match left with
  | 'T' :: rest | 't' :: rest | ' ' :: rest => isDigitsThen 2 ':' rest
  | _ => false

def moment? : Read Bool := do
  if ← sees (isDigitsThen 4 '-') then
    date
    if ← sees isTimeAfterDate then
      skip 1
      time
      offset
    return true
  else if ← sees (isDigitsThen 2 ':') then
    time
    return true
  else return false

def scalar : Read Value := do
  if ← symbol? "true" then return .boolean true
  else if ← symbol? "false" then return .boolean false
  else if ← moment? then return .moment
  else number

end CrateMetrics.Toml
