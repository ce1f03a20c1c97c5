import Schemata.Binary64.Rounding
import Schemata.Dict

/-!
# JSON values

A JSON number is an integer when it is written without point and exponent and fits a signed or an
unsigned 64-bit word, and a finite double otherwise.  The two kinds never compare as one.  Objects
hold their members in ascending order of the keys.
-/

namespace Schemata

/-- Whether an integer fits a signed or an unsigned 64-bit word. -/
def Json.FitsWord (value : Int) : Prop :=
  -9223372036854775808 ≤ value ∧ value ≤ 18446744073709551615

instance (value : Int) : Decidable (Json.FitsWord value) :=
  inferInstanceAs (Decidable (_ ∧ _))

inductive Json.Number where
  | integer (value : Int) (fits : Json.FitsWord value)
  | float (value : Binary64) (finite : value.isFinite = true)
  deriving DecidableEq

inductive Json where
  | null
  | bool (value : Bool)
  | number (value : Json.Number)
  | string (value : String)
  | array (items : List Json)
  | object (members : List (String × Json))

namespace Json

instance : Inhabited Json :=
  ⟨.null⟩

theorem fitsWord_of_int64 (value : Int64) : FitsWord value.toInt := by
  have low := Int64.le_toInt value
  have high := Int64.toInt_lt value
  unfold FitsWord
  omega

namespace Number

def ofInt64 (value : Int64) : Number :=
  .integer value.toInt (fitsWord_of_int64 value)

def ofBinary64? (value : Binary64) : Option Number :=
  if finite : value.isFinite = true then some (.float value finite) else none

def toInt64? : Number → Option Int64
  | .integer value _ => if value ≤ 9223372036854775807 then some (Int64.ofInt value) else none
  | .float .. => none

def toBinary64 : Number → Binary64
  | .integer value _ => Binary64.ofInt value
  | .float value _ => value

end Number

/-- A natural number, or null when it exceeds a word. -/
def ofNat (value : Nat) : Json :=
  if fits : FitsWord value then .number (.integer value fits) else .null

def ofInt64 (value : Int64) : Json :=
  .number (.ofInt64 value)

/-- A double, or null when it is not finite. -/
def ofBinary64 (value : Binary64) : Json :=
  match Number.ofBinary64? value with
  | some finite => .number finite
  | none => .null

def ofMembers (members : List (String × Json)) : Json :=
  .object (Dict.ofEntries members)

def ofStrings (items : List String) : Json :=
  .array (items.map .string)

def member? (key : String) : Json → Option Json
  | .object members => Dict.get? members key
  | _ => none

end Json

end Schemata
