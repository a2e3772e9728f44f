/-
The text of floating-point numbers: the shortest decimal in a given layout, or a fixed
number of decimal places.
-/

import CrateMetrics.Decimal.Shortest

namespace CrateMetrics.Decimal

structure Layout where
  /-- The decimal exponents that are written without exponent, from the first up to the
  second; all if absent. -/
  positional : Option (Int × Int) := none
  marksIntegral : Bool := true
  /-- What stands before a positive exponent, after the `e`. -/
  plus : String := ""
  notANumber : String
  infinity : String

/-- The decimal digits of a number; a digit for zero too. -/
def digitText (number : Nat) : List Char :=
  Nat.toDigits 10 number

/-- Digits without zeros at the end. The last digit comes first. -/
def dropZeros : List Char → Int → List Char × Int
  | '0' :: rest, scale => dropZeros rest (scale + 1)
  | digits, scale => (digits, scale)

/-- The digits of a decimal, first one first, without zeros at the end, and the place of
the decimal point counted from their start. -/
def Digits.layOut (decimal : Digits) : List Char × Int :=
  if decimal.digits = 0 then (['0'], 1)
  else
    let (reversed, scale) := dropZeros (digitText decimal.digits).reverse decimal.scale
    (reversed.reverse, reversed.length + scale)

def positionalText (marksIntegral : Bool) (digits : List Char) (point : Int) : List Char :=
  if point ≤ 0 then
    '0' :: '.' :: List.replicate (-point).toNat '0' ++ digits
  else if digits.length ≤ point then
    digits ++ List.replicate (point.toNat - digits.length) '0' ++
      (if marksIntegral then ['.', '0'] else [])
  else
    digits.take point.toNat ++ '.' :: digits.drop point.toNat

def exponentText (plus : String) (digits : List Char) (exponent : Int) : List Char :=
  let fraction := digits.drop 1
  digits.take 1 ++ (if fraction.isEmpty then [] else '.' :: fraction) ++ 'e' ::
    (if exponent < 0 then ['-'] else plus.toList) ++ digitText exponent.natAbs

def Layout.finiteText (layout : Layout) (decimal : Digits) : List Char :=
  let (digits, point) := decimal.layOut
  let isPositional :=
    match layout.positional with
    | none => true
    | some (lowest, highest) =>
        decimal.digits == 0 || (lowest ≤ point - 1 && point - 1 ≤ highest)
  if isPositional then positionalText layout.marksIntegral digits point
  else exponentText layout.plus digits (point - 1)

def signed (negative : Bool) (text : String) : String :=
  if negative then "-" ++ text else text

def Layout.text (layout : Layout) (number : Float) : String :=
  match Binary.ofFloat number with
  | .notANumber => layout.notANumber
  | .infinite negative => signed negative layout.infinity
  | .finite negative mantissa exponent =>
      signed negative (String.ofList (layout.finiteText (shortest mantissa exponent)))

/-- The text of a number with two decimal places, rounded exactly, a tie to the even
neighbour. -/
def twoPlaces (number : Float) : String :=
  match Binary.ofFloat number with
  | .notANumber => "NaN"
  | .infinite negative => signed negative "inf"
  | .finite negative mantissa exponent =>
      let hundredths :=
        roundQuotient (100 * mantissa * Nat.pow 2 exponent.toNat) (Nat.pow 2 (-exponent).toNat)
      let whole := String.ofList (digitText (hundredths / 100))
      let tens := String.ofList (digitText (hundredths / 10 % 10))
      let ones := String.ofList (digitText (hundredths % 10))
      signed negative (whole ++ "." ++ tens ++ ones)

end CrateMetrics.Decimal
