import Schemata.Json.Basic
import Schemata.Moment.Writer

/-!
# Typed values

What wire data becomes once it is read along a type.  Instances of host classes are seen by their
class and by their fields, as far as the class shows any; two instances that came to be apart from
each other are never equal.
-/

namespace Schemata

inductive Value where
  | null
  | bool (value : Bool)
  | int (value : Int64)
  | float (value : Binary64)
  | string (value : String)
  | list (items : List Value)
  | map (entries : List (String × Value))
  | object (entries : List (String × Value))
  | enumCase (enumeration case : String)
  | dateTime (className : String) (moment : Moment)
  /-- An instance of a host class, with its fields unless its payload is foreign. -/
  | host (className : String) (fields : Option (List (String × Value)))

namespace Value

instance : Inhabited Value :=
  ⟨.null⟩

def typeName : Value → String
  | .null => "null"
  | .bool _ => "bool"
  | .int _ => "int"
  | .float _ => "float"
  | .string _ => "string"
  | .list _ => "list"
  | .map _ => "map"
  | .object _ => "object"
  | .enumCase .. => "enum"
  | .dateTime .. => "datetime"
  | .host .. => "instance"

/-- The value of a JSON number: a signed word if it fits one, and the nearest double if not. -/
def ofNumber (number : Json.Number) : Value :=
  match number.toInt64? with
  | some value => .int value
  | none => .float number.toBinary64

mutual

def ofJson : Json → Value
  | .null => .null
  | .bool value => .bool value
  | .number value => ofNumber value
  | .string value => .string value
  | .array items => .list (ofJsonItems items)
  | .object members => .map (ofJsonMembers members)

def ofJsonItems : List Json → List Value
  | [] => []
  | item :: rest => ofJson item :: ofJsonItems rest

def ofJsonMembers : List (String × Json) → List (String × Value)
  | [] => []
  | (key, value) :: rest => (key, ofJson value) :: ofJsonMembers rest

end

mutual

/-- The JSON form of a value.  Instances, doubles that are not finite and moments without an
RFC 3339 text have none. -/
def toJson? : Value → Option Json
  | .null => some .null
  | .bool value => some (.bool value)
  | .int value => some (.ofInt64 value)
  | .float value => (Json.Number.ofBinary64? value).map .number
  | .string value => some (.string value)
  | .list items => (toJsonItems? items).map .array
  | .map entries => (toJsonEntries? entries).map .object
  | .object entries => (toJsonEntries? entries).map .object
  | .enumCase _ case => some (.string case)
  | .dateTime _ moment =>
      match moment.writeRfc3339 with
      | .ok text => some (.string text)
      | .error _ => none
  | .host .. => none

def toJsonItems? : List Value → Option (List Json)
  | [] => some []
  | item :: rest => do
      let item ← toJson? item
      let rest ← toJsonItems? rest
      return item :: rest

def toJsonEntries? : List (String × Value) → Option (List (String × Json))
  | [] => some []
  | (key, value) :: rest => do
      let value ← toJson? value
      let rest ← toJsonEntries? rest
      return (key, value) :: rest

end

def length? : Value → Option Nat
  | .string value => some value.length
  | .list items => some items.length
  | .map entries | .object entries => some entries.length
  | _ => none

def string? : Value → Option String
  | .string value => some value
  | _ => none

def properties? : Value → Option (List (String × Value))
  | .map entries | .object entries => some entries
  | _ => none

mutual

/-- Whether two values that came to be apart from each other are equal.  Doubles are compared as
numbers and moments as instants. -/
def isEqual : Value → Value → Bool
  | .null, .null => true
  | .bool left, .bool right => left == right
  | .int left, .int right => left == right
  | .float left, .float right => left.numEq right
  | .string left, .string right => left == right
  | .list left, .list right => areEqualItems left right
  | .map left, .map right => areEqualEntries left right
  | .object left, .object right => areEqualEntries left right
  | .enumCase enumeration case, .enumCase enumeration' case' =>
      enumeration == enumeration' && case == case'
  | .dateTime className moment, .dateTime className' moment' =>
      className == className' && moment.isSame moment'
  | _, _ => false

def areEqualItems : List Value → List Value → Bool
  | [], [] => true
  | left :: lefts, right :: rights => isEqual left right && areEqualItems lefts rights
  | _, _ => false

def areEqualEntries : List (String × Value) → List (String × Value) → Bool
  | [], [] => true
  | (key, left) :: lefts, (key', right) :: rights =>
      key == key' && isEqual left right && areEqualEntries lefts rights
  | _, _ => false

end

mutual

/-- Whether a value is equal to itself, which fails when it holds a double that is no number. -/
def isSelfEqual : Value → Bool
  | .float value => value.numEq value
  | .list items => areSelfEqualItems items
  | .map entries => areSelfEqualEntries entries
  | .object entries => areSelfEqualEntries entries
  | _ => true

def areSelfEqualItems : List Value → Bool
  | [] => true
  | item :: rest => isSelfEqual item && areSelfEqualItems rest

def areSelfEqualEntries : List (String × Value) → Bool
  | [] => true
  | (_, value) :: rest => isSelfEqual value && areSelfEqualEntries rest

end

end Value

end Schemata
