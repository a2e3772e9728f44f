/-
Binary floating-point numbers of double precision as exact values: a finite number is a
sign and a product m · 2^q. `nearest` goes the other way and rounds a quotient of natural
numbers to the number next to it, a tie to the even neighbour.
-/

namespace CrateMetrics.Decimal

inductive Binary where
  /-- `mantissa · 2^exponent`; the mantissa of a zero is zero. -/
  | finite (negative : Bool) (mantissa : Nat) (exponent : Int)
  | infinite (negative : Bool)
  | notANumber
  deriving DecidableEq, Repr

def Binary.ofBits (bits : Nat) : Binary :=
  let negative := bits.testBit 63
  let field : Nat := bits / Nat.pow 2 52 % Nat.pow 2 11
  let fraction := bits % Nat.pow 2 52
  if field = Nat.pow 2 11 - 1 then
    if fraction = 0 then .infinite negative else .notANumber
  else if field = 0 then .finite negative fraction (-1074)
  else .finite negative (Nat.pow 2 52 + fraction) (field - 1075)

def Binary.ofFloat (number : Float) : Binary :=
  .ofBits number.toBits.toNat

/-- The quotient rounded to the nearest natural number, a tie to the even one. -/
def roundQuotient (numerator denominator : Nat) : Nat :=
  let quotient := numerator / denominator
  let rest := 2 * (numerator % denominator)
  if rest < denominator || (rest == denominator && quotient % 2 == 0) then quotient
  else quotient + 1

/-- The exponent `e` with `2^e ≤ numerator / denominator < 2^(e+1)`, for positive numbers. -/
def binaryExponent (numerator denominator : Nat) : Int :=
  let estimate : Int := numerator.log2 - denominator.log2
  if numerator <<< (-estimate).toNat < denominator <<< estimate.toNat then estimate - 1
  else estimate

/-- The bits of the non-negative number nearest to a quotient, of infinity if it is too
large. The exponent field continues the mantissa, so a carry raises the exponent. -/
def nearestBits (numerator denominator : Nat) : Nat :=
  if numerator = 0 then 0
  else
    let exponent := max (binaryExponent numerator denominator - 52) (-1074)
    let mantissa :=
      roundQuotient (numerator <<< (-exponent).toNat) (denominator <<< exponent.toNat)
    min ((exponent + 1074).toNat * Nat.pow 2 52 + mantissa) ((Nat.pow 2 11 - 1) * Nat.pow 2 52)

def nearest (negative : Bool) (numerator denominator : Nat) : Float :=
  let bits := nearestBits numerator denominator
  Float.ofBits (UInt64.ofNat (if negative then Nat.pow 2 63 + bits else bits))

/-- The number nearest to `mantissa · 10^exponent`. Where the exponent alone decides that
this is zero or infinity, the power is not worked out. -/
def nearestScaled (negative : Bool) (mantissa : Nat) (exponent : Int) : Float :=
  if mantissa = 0 || mantissa.log2 + 1 + exponent < -400 then nearest negative 0 1
  else if 400 < exponent then nearest negative (Nat.pow 2 1024) 1
  else if exponent < 0 then nearest negative mantissa (Nat.pow 10 (-exponent).toNat)
  else nearest negative (mantissa * Nat.pow 10 exponent.toNat) 1

end CrateMetrics.Decimal
