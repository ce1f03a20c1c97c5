import Schemata.Json.Printer
import Schemata.Node.Basic

/-!
# Discriminators

A union of structs of one kind has a discriminator when some property is a required literal in
every member, with a text on the wire of its own in each.  The first such property of the first
member counts.
-/

namespace Schemata

/-- The JSON value of a literal on the wire.  An enum case travels as its name, and a double that
is not finite as null. -/
def Literal.toJson : Literal → Json
  | .bool value => .bool value
  | .int value => .ofInt64 value
  | .float value => .ofBinary64 value
  | .string value => .string value
  | .enumCase _ case => .string case

def Literal.wireKey (literal : Literal) : String :=
  literal.toJson.compact

namespace Discriminator

def literalKey? (field : String) (properties : List (Property Node)) : Option String := do
  let property ← properties.find? fun property => property.name == field
  if property.optional then none
  else
    match property.node.unwrapped with
    | .literal value => some value.wireKey
    | _ => none

def armsOf? (field : String) :
    (arm : Nat) → (arms : List (String × Nat)) → List (List (Property Node)) →
      Option (List (String × Nat))
  | _, arms, [] => some arms
  | arm, arms, properties :: rest => do
      let key ← literalKey? field properties
      if Dict.contains arms key then none
      else armsOf? field (arm + 1) (Dict.insert arms key arm) rest

/-- The first of some names under which every struct has a literal of its own. -/
def firstOf? (structs : List (List (Property Node))) : List String → Option Discriminator
  | [] => none
  | field :: rest =>
      match armsOf? field 0 [] structs with
      | some arms => some { field, arms }
      | none => firstOf? structs rest

def infer? (members : List Node) : Option Discriminator :=
  if members.length < 2 then none
  else
    match members.mapM Node.struct? with
    | none | some [] => none
    | some ((kind, properties) :: others) =>
        if others.any fun other => other.1 ≠ kind then none
        else
          firstOf? (properties :: others.map Prod.snd) (properties.map Property.name)

/-- The arm a wire value selects: the arm under its text, or that of the double an integer is equal
to. -/
def armFor? (discriminator : Discriminator) (tag : Json) : Option Nat :=
  match Dict.get? discriminator.arms tag.compact with
  | some arm => some arm
  | none =>
      match tag with
      | .number (.integer value _) =>
          Dict.get? discriminator.arms (Json.ofBinary64 (Binary64.ofInt value)).compact
      | _ => none

end Discriminator

end Schemata
