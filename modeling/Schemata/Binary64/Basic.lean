import Schemata.Power

/-!
# Binary64 numbers

The numbers of the IEEE 754 double format.  A finite number is a sign, a mantissa and an exponent
in the one canonical form, so that numbers with the same bits are equal and signed zeros differ.
Every operation here is exact arithmetic on the mantissa and the exponent.
-/

namespace Schemata

/-- The mantissa fits 53 bits, its top bit is set unless the exponent is the least one, and the
exponent does not exceed the greatest one. -/
def Binary64.IsCanonical (mantissa exponent : Nat) : Prop :=
  mantissa < twoTo 53 ∧ (exponent = 0 ∨ twoTo 52 ≤ mantissa) ∧ exponent ≤ 2045

instance (mantissa exponent : Nat) : Decidable (Binary64.IsCanonical mantissa exponent) :=
  inferInstanceAs (Decidable (_ ∧ _ ∧ _))

/-- A double: not a number, an infinity, or `± mantissa · 2 ^ (exponent - 1074)`. -/
inductive Binary64 where
  | nan
  | infinite (negative : Bool)
  | finite (negative : Bool) (mantissa exponent : Nat)
      (canonical : Binary64.IsCanonical mantissa exponent)
  deriving DecidableEq

namespace Binary64

def zero (negative : Bool) : Binary64 :=
  .finite negative 0 0 (by decide)

instance : Inhabited Binary64 :=
  ⟨zero false⟩

def isFinite : Binary64 → Bool
  | .finite .. => true
  | _ => false

/-- A finite number with the given parts, or the infinity of the sign when they exceed the
format. -/
def ofParts (negative : Bool) (mantissa exponent : Nat) : Binary64 :=
  if canonical : IsCanonical mantissa exponent then .finite negative mantissa exponent canonical
  else .infinite negative

/-- The value of a finite number in units of the least positive one, `2 ^ (-1074)`. -/
def units (negative : Bool) (mantissa exponent : Nat) : Int :=
  if negative then -(mantissa * twoTo exponent : Nat) else (mantissa * twoTo exponent : Nat)

/-- Numeric equality: the two zeros are equal, and not a number differs from everything. -/
def numEq : Binary64 → Binary64 → Bool
  | .finite negative mantissa exponent _, .finite negative' mantissa' exponent' _ =>
      mantissa == mantissa' && exponent == exponent' && (negative == negative' || mantissa == 0)
  | .infinite negative, .infinite negative' => negative == negative'
  | _, _ => false

/-- Numeric order, false as soon as one side is not a number. -/
def le : Binary64 → Binary64 → Bool
  | .nan, _ => false
  | _, .nan => false
  | .infinite negative, right => negative || right == .infinite false
  | _, .infinite negative => !negative
  | .finite negative mantissa exponent _, .finite negative' mantissa' exponent' _ =>
      units negative mantissa exponent ≤ units negative' mantissa' exponent'

def toInt? : Binary64 → Option Int
  | .finite negative mantissa exponent _ =>
      let magnitude := mantissa * twoTo exponent
      if magnitude % twoTo 1074 = 0 then
        some (if negative then -(magnitude / twoTo 1074 : Nat) else (magnitude / twoTo 1074 : Nat))
      else none
  | _ => none

end Binary64

end Schemata
