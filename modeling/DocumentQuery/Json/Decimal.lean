/-
This file reads decimals into doubles and finds the fewest digits that read back as a double.
-/

namespace DocumentQuery

/-- A decimal is an integer times a power of ten. -/
structure Decimal where
  significand : Nat
  exponent : Int
  deriving DecidableEq, Repr

namespace Decimal

/-- Significands are kept in 64 bits. -/
def significandBound : Nat := UInt64.size

def powerOfTen (exponent : Nat) : Float :=
  Float.ofScientific 1 false exponent

/-- The largest power of ten that is a finite double. -/
def largestPower : Nat := 308

/-- A step divides by the largest finite power, so no divisor overflows. -/
def divideByPower (value : Float) (exponent : Nat) : Float :=
  if exponent ≤ largestPower then value / powerOfTen exponent
  else if value == 0 then value
  else divideByPower (value / powerOfTen largestPower) (exponent - largestPower)
termination_by exponent
decreasing_by simp only [largestPower] at *; omega

/-- The scaling rounds once for the significand and once for each power of ten. A value beyond the
doubles has no result. -/
def toDouble? (decimal : Decimal) (negative : Bool) : Option Float :=
  let whole := (UInt64.ofNat decimal.significand).toFloat
  let magnitude :=
    if decimal.exponent < 0 then divideByPower whole decimal.exponent.natAbs
    else if decimal.significand = 0 then whole
    else whole * powerOfTen (min decimal.exponent.natAbs (largestPower + 1))
  if magnitude.isInf then none
  else some (if negative then -magnitude else magnitude)

end Decimal

namespace Double

def signBit : Nat := 1 <<< 63

def hiddenBit : Nat := 1 <<< 52

def isNegative (bits : UInt64) : Bool :=
  signBit ≤ bits.toNat

def fraction (bits : UInt64) : Nat :=
  bits.toNat % hiddenBit

def biasedExponent (bits : UInt64) : Nat :=
  bits.toNat / hiddenBit % 2048

/-- The magnitude of a finite double is its significand times two to its exponent. -/
def significand (bits : UInt64) : Nat :=
  if biasedExponent bits = 0 then fraction bits else fraction bits + hiddenBit

def exponent (bits : UInt64) : Int :=
  if biasedExponent bits = 0 then -1074 else (biasedExponent bits : Int) - 1075

/-- The gap below a power of two is half the gap above it. This value counts quarters of the gap
above. -/
def quartersBelow (bits : UInt64) : Nat :=
  if fraction bits = 0 ∧ 1 < biasedExponent bits then 1 else 2

/-- An interval holds the quotients that round to one double. The ends belong to it exactly when the
significand is even. -/
structure Interval where
  lower : Nat
  middle : Nat
  upper : Nat
  denominator : Nat
  closed : Bool

/-- The interval is scaled by ten to the minus `grid`. -/
def interval (bits : UInt64) (grid : Int) : Interval :=
  let binary := exponent bits - 2
  let numerator := Nat.pow 2 binary.toNat * Nat.pow 10 (-grid).toNat
  { lower := (4 * significand bits - quartersBelow bits) * numerator
    middle := 4 * significand bits * numerator
    upper := (4 * significand bits + 2) * numerator
    denominator := Nat.pow 2 (-binary).toNat * Nat.pow 10 grid.toNat
    closed := significand bits % 2 = 0 }

/-- The whole number `value` lies in the interval. -/
def Interval.holds (interval : Interval) (value : Nat) : Bool :=
  let scaled := value * interval.denominator
  if interval.closed then interval.lower ≤ scaled && scaled ≤ interval.upper
  else interval.lower < scaled && scaled < interval.upper

/-- Of the two whole numbers around the middle, the nearer one in the interval is taken, and the
even one of a tie. -/
def Interval.nearest? (interval : Interval) : Option Nat :=
  let below := interval.middle / interval.denominator
  let above := below + 1
  let toBelow := interval.middle - below * interval.denominator
  let toAbove := above * interval.denominator - interval.middle
  match interval.holds below, interval.holds above with
  | false, false => none
  | true, false => some below
  | false, true => some above
  | true, true =>
      if toBelow < toAbove then some below
      else if toAbove < toBelow then some above
      else if below % 2 = 0 then some below else some above

def digitCount (value : Nat) : Nat :=
  (Nat.toDigits 10 value).length

/-- Ten to this exponent is the largest power of ten not above the magnitude. -/
def decimalExponent (bits : UInt64) : Int :=
  let whole := interval bits 0
  let estimate : Int := (digitCount whole.middle : Int) - digitCount whole.denominator
  let scaled := interval bits estimate
  if scaled.denominator ≤ scaled.middle then estimate else estimate - 1

def stripZeros : Nat → Decimal → Decimal
  | 0, decimal => decimal
  | rounds + 1, decimal =>
      if decimal.significand % 10 = 0 then
        stripZeros rounds ⟨decimal.significand / 10, decimal.exponent + 1⟩
      else decimal

/-- Seventeen digits suffice for every double. -/
def mostDigits : Nat := 17

/-- The grids with fewer digits are tried first. -/
def shortestFrom (bits : UInt64) : List Nat → Decimal
  | [] => ⟨significand bits, 0⟩
  | digits :: rest =>
      let grid := decimalExponent bits - digits
      match (interval bits grid).nearest? with
      | some value => stripZeros mostDigits ⟨value, grid⟩
      | none => shortestFrom bits rest

/-- The result is the decimal with the fewest digits that rounds to the magnitude. -/
def shortest (bits : UInt64) : Decimal :=
  if significand bits = 0 then ⟨0, 0⟩ else shortestFrom bits (List.range mostDigits)

end Double

/-- Numbers of the text form are written positionally between these exponents. -/
structure DoubleFormat where
  leastPositional : Int
  greatestPositional : Int

/-- Doubles from `0.00001` to below `1e+16` are written positionally, always with a fraction. -/
def Json.doubleFormat : DoubleFormat := ⟨-5, 15⟩

namespace DoubleFormat

def zeros (count : Nat) : String :=
  String.ofList (List.replicate count '0')

/-- The point stands after the digit for ten to the zero. -/
def positional (digits : List Char) (exponent : Int) : String :=
  if exponent ≥ 0 then String.ofList digits ++ zeros exponent.toNat ++ ".0"
  else
    let places := exponent.natAbs
    if places < digits.length then
      String.ofList (digits.take (digits.length - places)) ++ "." ++
        String.ofList (digits.drop (digits.length - places))
    else "0." ++ zeros (places - digits.length) ++ String.ofList digits

/-- The point stands after the first digit, and the exponent keeps its sign. -/
def scientific (digits : List Char) (leading : Int) : String :=
  let tail := digits.drop 1
  String.ofList (digits.take 1) ++
    (if tail.isEmpty then "" else "." ++ String.ofList tail) ++
    (if leading < 0 then "e-" else "e+") ++ toString leading.natAbs

def write (format : DoubleFormat) (bits : UInt64) : String :=
  let decimal := Double.shortest bits
  let digits := Nat.toDigits 10 decimal.significand
  let leading := decimal.exponent + digits.length - 1
  let magnitude :=
    if format.leastPositional ≤ leading ∧ leading ≤ format.greatestPositional then
      positional digits decimal.exponent
    else scientific digits leading
  if Double.isNegative bits then "-" ++ magnitude else magnitude

end DoubleFormat

end DocumentQuery
