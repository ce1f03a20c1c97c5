import Schemata.Binary64.Rounding
import Schemata.Text.Decimal

/-!
# Reading binary64 text

A decimal is an optional sign, digits with at most one point among or beside them, and an optional
exponent.  Number words add the spellings of the infinities and of not a number.
-/

namespace Schemata.Binary64

open Text

/-- A decimal: a sign, the digits without their point, and the power of ten they are scaled by. -/
structure Decimal where
  negative : Bool
  digits : List Char
  scale : Int

def exponent? : List Char → Option Int
  | [] => some 0
  | mark :: rest => if mark = 'e' ∨ mark = 'E' then Text.Decimal.integer? rest else none

/-- The decimal a text spells.  At least one digit stands before the exponent. -/
def decimal? (text : List Char) : Option Decimal :=
  let signed := Text.Decimal.splitSign text
  let whole := signed.2.takeWhile Character.isDigit
  let rest := signed.2.dropWhile Character.isDigit
  let pointed := match rest with
    | '.' :: more => (more.takeWhile Character.isDigit, more.dropWhile Character.isDigit)
    | _ => ([], rest)
  if whole.isEmpty && pointed.1.isEmpty then none
  else (exponent? pointed.2).map fun exponent =>
    { negative := signed.1, digits := whole ++ pointed.1, scale := exponent - pointed.1.length }

def Decimal.toBinary64 (decimal : Decimal) : Binary64 :=
  ofDecimal decimal.negative (Text.Decimal.value decimal.digits) decimal.scale

def ofDecimalText? (text : List Char) : Option Binary64 :=
  (decimal? text).map Decimal.toBinary64

def lowered (text : List Char) : List Char :=
  text.map Char.toLower

/-- The double a number word spells: a decimal, `inf`, `infinity` or `nan`, with any sign. -/
def ofText? (text : List Char) : Option Binary64 :=
  let signed := Text.Decimal.splitSign text
  let word := lowered signed.2
  if word = "inf".toList ∨ word = "infinity".toList then some (.infinite signed.1)
  else if word = "nan".toList then some .nan
  else ofDecimalText? text

end Schemata.Binary64
