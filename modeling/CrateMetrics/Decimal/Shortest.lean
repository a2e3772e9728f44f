/-
The shortest decimal of a binary floating-point number: of all decimals that round to it
those with the fewest digits, and of these the one nearest to it.

The reals that round to m · 2^q form an interval around it, ends included exactly if m is
even. Grids of decimals are tried from one digit upwards; if a grid has a point in the
interval, then one of the two grid points next to the number is in it.
-/

import CrateMetrics.Decimal.Binary

namespace CrateMetrics.Decimal

/-- The number `digits · 10^scale`. -/
structure Digits where
  digits : Nat
  scale : Int
  deriving DecidableEq, Repr

/-- A number and the ends of the interval that rounds to it, as multiples of
`2^unit`. -/
structure Neighbourhood where
  low : Nat
  value : Nat
  high : Nat
  unit : Int
  closed : Bool

/-- The interval around `mantissa · 2^exponent`. Below a power of two the numbers lie twice
as dense as above it, except among the smallest ones. -/
def Neighbourhood.of (mantissa : Nat) (exponent : Int) : Neighbourhood :=
  { low :=
      if mantissa = Nat.pow 2 52 && -1074 < exponent then 4 * mantissa - 1
      else 4 * mantissa - 2
    value := 4 * mantissa
    high := 4 * mantissa + 2
    unit := exponent - 2
    closed := mantissa % 2 = 0 }

/-- Whether a multiple of `2^unit`, given as a quotient, lies in the interval. -/
def Neighbourhood.holds (around : Neighbourhood) (numerator denominator : Nat) : Bool :=
  if around.closed then
    around.low * denominator ≤ numerator && numerator ≤ around.high * denominator
  else
    around.low * denominator < numerator && numerator < around.high * denominator

/-- The point nearest to the number of the grid of multiples of `10^scale`, if it has a
point in the interval. -/
def Neighbourhood.onGrid? (around : Neighbourhood) (scale : Int) : Option Nat :=
  -- a grid point n is n · step / size of the unit
  let step := Nat.pow 10 scale.toNat * Nat.pow 2 (-around.unit).toNat
  let size := Nat.pow 10 (-scale).toNat * Nat.pow 2 around.unit.toNat
  let below := around.value * size / step
  let isBelow := around.holds (below * step) size
  let isAbove := around.holds ((below + 1) * step) size
  let belowIsNearer :=
    2 * (around.value * size) < (2 * below + 1) * step ||
      (2 * (around.value * size) == (2 * below + 1) * step && below % 2 == 0)
  if isBelow && (belowIsNearer || !isAbove) then some below
  else if isAbove then some (below + 1)
  else none

def Neighbourhood.firstOnGrid (around : Neighbourhood) : Nat → Int → Option Digits
  | 0, _ => none
  | tries + 1, scale =>
      match around.onGrid? scale with
      | some digits => if digits = 0 then around.firstOnGrid tries (scale - 1)
          else some { digits, scale }
      | none => around.firstOnGrid tries (scale - 1)

/-- The shortest decimal of `mantissa · 2^exponent`. The first grid is coarser than the
number, seventeen digits are always enough. -/
def shortest (mantissa : Nat) (exponent : Int) : Digits :=
  if mantissa = 0 then { digits := 0, scale := 0 }
  else
    -- 1233 / 4096 is just above the decimal logarithm of two
    let magnitude := (mantissa.log2 + exponent) * 1233 / 4096
    match (Neighbourhood.of mantissa exponent).firstOnGrid 22 (magnitude + 2) with
    | some digits => digits
    | none => { digits := 0, scale := 0 }

end CrateMetrics.Decimal
