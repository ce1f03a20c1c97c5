import Schemata.Text.Character

/-!
# Decimal integers

Writing natural numbers and integers in decimal, and reading a signed decimal integer that fits a
64-bit word.
-/

namespace Schemata.Text.Decimal

def ofNat (value : Nat) : List Char :=
  Nat.toDigits 10 value

def ofInt (value : Int) : List Char :=
  if value < 0 then '-' :: ofNat value.natAbs else ofNat value.natAbs

def digitValue (char : Char) : Nat :=
  char.toNat - '0'.toNat

def value (digits : List Char) : Nat :=
  digits.foldl (fun total digit => 10 * total + digitValue digit) 0

def natural? (text : List Char) : Option Nat :=
  if text.isEmpty || !text.all Character.isDigit then none else some (value text)

/-- Whether the text begins with a minus sign, and what follows a sign. -/
def splitSign : List Char → Bool × List Char
  | '-' :: rest => (true, rest)
  | '+' :: rest => (false, rest)
  | text => (false, text)

def integer? (text : List Char) : Option Int :=
  let signed := splitSign text
  (natural? signed.2).map fun magnitude => if signed.1 then -magnitude else magnitude

def FitsInt64 (value : Int) : Prop :=
  -9223372036854775808 ≤ value ∧ value ≤ 9223372036854775807

instance (value : Int) : Decidable (FitsInt64 value) :=
  inferInstanceAs (Decidable (_ ∧ _))

def toInt64? (value : Int) : Option Int64 :=
  if FitsInt64 value then some (Int64.ofInt value) else none

def int64? (text : List Char) : Option Int64 :=
  (integer? text).bind toInt64?

end Schemata.Text.Decimal
