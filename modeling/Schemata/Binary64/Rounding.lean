import Schemata.Binary64.Basic

/-!
# Rounding to binary64

A ratio of natural numbers rounds to the nearest double, a half to the even neighbour.  Decimals
and integers round through ratios.
-/

namespace Schemata.Binary64

/-- The quotient rounded to the nearest integer, a half to the even one. -/
def roundHalfEven (numerator denominator : Nat) : Nat :=
  let quotient := numerator / denominator
  let twice := 2 * (numerator % denominator)
  if twice < denominator then quotient
  else if denominator < twice then quotient + 1
  else if quotient % 2 = 0 then quotient
  else quotient + 1

def ofRatio (negative : Bool) (numerator denominator : Nat) : Binary64 :=
  let scaled := numerator * twoTo 1074
  let width := Nat.log2 (scaled / denominator)
  let exponent := width - 52
  let mantissa := roundHalfEven scaled (denominator * twoTo exponent)
  if mantissa = twoTo 53 then ofParts negative (twoTo 52) (exponent + 1)
  else ofParts negative mantissa exponent

/-- The double nearest to `digits · 10 ^ scale`.  Values far outside the format are settled by
their size alone, before any power of ten is computed. -/
def ofDecimal (negative : Bool) (digits : Nat) (scale : Int) : Binary64 :=
  if digits = 0 then zero negative
  else if 310 < scale then .infinite negative
  else if 0 ≤ scale then ofRatio negative (digits * tenTo scale.toNat) 1
  else if digits.log2 / 3 + 340 < (-scale).toNat then zero negative
  else ofRatio negative digits (tenTo (-scale).toNat)

def ofInt (value : Int) : Binary64 :=
  ofRatio (decide (value < 0)) value.natAbs 1

end Schemata.Binary64
