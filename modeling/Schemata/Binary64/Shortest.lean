import Schemata.Binary64.Basic

/-!
# Shortest decimals

The shortest decimal that rounds to a finite double, and of those the nearest to it.  Two of them
can be equally near, and the tie rule settles which one is written.

The reals that round to the double form an interval, closed exactly when the mantissa is even.
Grids of decreasing powers of ten are tried in turn; on each grid only the two neighbours of the
double can be the nearest point, so the first grid with a neighbour in the interval settles the
digits.
-/

namespace Schemata.Binary64

/-- Which of two equally near decimals is written: the larger, or the one with the even last
digit. -/
inductive Tie where
  | up
  | even

/-- The interval around a positive double, in quarters of the least positive double. -/
structure Neighbourhood where
  centre : Nat
  low : Nat
  high : Nat
  closed : Bool

/-- The reals that round to the double.  Below a power of two the gap is half as wide. -/
def neighbourhood (mantissa exponent : Nat) : Neighbourhood :=
  let centre := 4 * mantissa * twoTo exponent
  let below := if mantissa = twoTo 52 ∧ 0 < exponent then 1 else 2
  { centre
    low := centre - below * twoTo exponent
    high := centre + 2 * twoTo exponent
    closed := mantissa % 2 = 0 }

def Neighbourhood.holds (near : Neighbourhood) (numerator denominator : Nat) : Bool :=
  if near.closed then
    near.low * denominator ≤ numerator && numerator ≤ near.high * denominator
  else near.low * denominator < numerator && numerator < near.high * denominator

/-- The grid point next to the double on the grid `10 ^ scale`, if one lies in the interval. -/
def Neighbourhood.pointOn (near : Neighbourhood) (tie : Tie) (scale : Int) : Option Nat :=
  let step := if 0 ≤ scale then 4 * twoTo 1074 * tenTo scale.toNat else 4 * twoTo 1074
  let denominator := if 0 ≤ scale then 1 else tenTo (-scale).toNat
  let floor := near.centre * denominator / step
  let below := near.holds (floor * step) denominator
  let above := near.holds ((floor + 1) * step) denominator
  let toAbove := (floor + 1) * step - near.centre * denominator
  let toBelow := near.centre * denominator - floor * step
  let nearerAbove := match tie with
    | .up => toAbove ≤ toBelow
    | .even => toAbove < toBelow || (toAbove == toBelow && floor % 2 == 1)
  if above && (nearerAbove || !below) then some (floor + 1)
  else if below then some floor
  else none

/-- The first grid with a point in the interval, from the grid `10 ^ scale` downwards. -/
def Neighbourhood.search (near : Neighbourhood) (tie : Tie) :
    (grids : Nat) → (scale : Int) → Nat × Int
  | 0, scale => (0, scale)
  | grids + 1, scale =>
      match near.pointOn tie scale with
      | some digits => (digits, scale)
      | none => near.search tie grids (scale - 1)

/-- A power of ten at or above the leading digit of `2 ^ (width - 1074)`, since `0.30103` exceeds
the decimal logarithm of two by less than one part in ten thousand million. -/
def leadingScale (width : Nat) : Int :=
  Int.fdiv (((width : Int) - 1073) * 30103) 100000 + 1

def dropTrailingZeros : (places digits : Nat) → (scale : Int) → Nat × Int
  | 0, digits, scale => (digits, scale)
  | places + 1, digits, scale =>
      if digits ≠ 0 ∧ digits % 10 = 0 then dropTrailingZeros places (digits / 10) (scale + 1)
      else (digits, scale)

def shortest (tie : Tie) (mantissa exponent : Nat) : Nat × Int :=
  let near := neighbourhood mantissa exponent
  let found := near.search tie 24 (leadingScale (mantissa.log2 + exponent))
  dropTrailingZeros 24 found.1 found.2

end Schemata.Binary64
