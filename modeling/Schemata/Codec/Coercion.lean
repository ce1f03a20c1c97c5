import Schemata.Binary64.Reader
import Schemata.Json.Printer

/-!
# Coercion

Readings of wire data as a primitive of another kind.  There is none where a value could be read in
more than one way.
-/

namespace Schemata.Coercion

open Text

/-- The word nearest to an integer that lies between the least word and one above the greatest. -/
def clampedInt64? (value : Int) : Option Int64 :=
  if -9223372036854775808 ≤ value ∧ value ≤ 9223372036854775808 then
    some (Int64.ofInt (min value 9223372036854775807))
  else none

/-- An integer: a number with an integral value in range, its text, or a truth value as 0 or 1. -/
def toInt? : Json → Option Int64
  | .number number =>
      match number.toInt64? with
      | some value => some value
      | none => number.toBinary64.toInt?.bind clampedInt64?
  | .string text => Decimal.int64? (Character.trimmed text.toList)
  | .bool value => some (if value then 1 else 0)
  | _ => none

def toFloat? : Json → Option Binary64
  | .number number => some number.toBinary64
  | .string text => (Binary64.ofText? (Character.trimmed text.toList)).filter Binary64.isFinite
  | .bool value => some (Binary64.ofInt (if value then 1 else 0))
  | _ => none

/-- A truth value: the integers 0 and 1, and the words for both. -/
def toBool? : Json → Option Bool
  | .bool value => some value
  | .number number =>
      match number.toInt64? with
      | some 0 => some false
      | some 1 => some true
      | _ => none
  | .string text =>
      let word := String.ofList (Character.trimmed text.toList)
      if word = "true" ∨ word = "1" then some true
      else if word = "false" ∨ word = "0" ∨ word = "" then some false
      else none
  | _ => none

def toString? : Json → Option String
  | .string text => some text
  | .number number => some (Json.compact (.number number))
  | .bool value => some (Json.compact (.bool value))
  | _ => none

end Schemata.Coercion
