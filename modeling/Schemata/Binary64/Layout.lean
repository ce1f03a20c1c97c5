import Schemata.Binary64.Shortest
import Schemata.Text.Decimal

/-!
# Layouts of binary64 text

Two texts of a double are in use: the one of type strings and the one of JSON.  Both spell the
shortest decimal that reads back and always show a point or an exponent.  They differ in where
positional notation ends, in whether a positive exponent shows its sign, and in how ties go.
-/

namespace Schemata.Binary64

structure Layout where
  /-- The least exponent of the leading digit that is still written positionally. -/
  leastPositional : Int
  /-- Whether a positive exponent is written with its sign. -/
  plusExponent : Bool
  tie : Tie

namespace Layout

/-- Type strings write `0.0001` and `1e-5`. -/
def typeText : Layout :=
  { leastPositional := -4, plusExponent := false, tie := .up }

/-- JSON writes `0.00001` and `1e-6`, and `1e+16`. -/
def json : Layout :=
  { leastPositional := -5, plusExponent := true, tie := .even }

/-- Digits with a decimal point `point` places after their start, and `.0` when nothing follows
the point. -/
def positional (digits : List Char) (point : Int) : List Char :=
  if point ≤ 0 then '0' :: '.' :: List.replicate (-point).toNat '0' ++ digits
  else
    let whole := digits.take point.toNat
    let fraction := digits.drop point.toNat
    whole ++ List.replicate (point.toNat - whole.length) '0' ++
      '.' :: (if fraction.isEmpty then ['0'] else fraction)

def scientific (layout : Layout) (digits : List Char) (exponent : Int) : List Char :=
  let fraction := digits.drop 1
  let sign := if layout.plusExponent ∧ 0 ≤ exponent then ['+'] else []
  digits.take 1 ++ (if fraction.isEmpty then [] else '.' :: fraction) ++
    'e' :: (sign ++ Text.Decimal.ofInt exponent)

def magnitude (layout : Layout) (mantissa exponent : Nat) : List Char :=
  let decimal := shortest layout.tie mantissa exponent
  let digits := Text.Decimal.ofNat decimal.1
  let leading := decimal.2 + digits.length - 1
  if layout.leastPositional ≤ leading ∧ leading < 16 then positional digits (leading + 1)
  else layout.scientific digits leading

end Layout

def toChars (layout : Layout) : Binary64 → List Char
  | .nan => ['N', 'a', 'N']
  | .infinite negative => (if negative then ['-'] else []) ++ ['i', 'n', 'f']
  | .finite negative mantissa exponent _ =>
      (if negative then ['-'] else []) ++
        (if mantissa = 0 then ['0', '.', '0'] else layout.magnitude mantissa exponent)

def typeText (value : Binary64) : String :=
  String.ofList (value.toChars .typeText)

def jsonText (value : Binary64) : String :=
  String.ofList (value.toChars .json)

end Schemata.Binary64
