import Schemata.Json.Basic

/-!
# Syntax errors

What can be wrong with a type string or with the parts a node is built from, where in which text
it was found, and the wording of each cause.
-/

namespace Schemata

/-- A declaration whose text is parsed on behalf of another text. -/
inductive SyntaxError.Place where
  | alias
  | field
  | object
  deriving DecidableEq

/-- What is wrong.  Tokens, names and nodes stand in it by their text. -/
inductive SyntaxError.Cause where
  | unterminatedString
  | unexpectedEnd
  | expectedToken (expected actual : String)
  | expectedIdentifier (actual : String)
  | unexpectedAfterType (actual : String)
  | nestedTooDeep (levels : Nat)
  | unknownType (name : String)
  | missingType
  | notAType (actual : String)
  | notABound (actual : String)
  | crossedBounds (lower upper : Int)
  | unknownEnumCase (enumeration case : String)
  | noMatchingConstant (pattern : String)
  | noSuchCase (enumeration name : String)
  | undefinedConstant (pattern : String)
  | recursiveAlias (name : String)
  | recursiveObject (name : String)
  | listKey
  | arrayKey (actual : String)
  | tupleKey (actual : Int) (expected : Nat)
  | notAPropertyName (actual : String)
  | selectionKeys (utility actual : String)
  | selectionTarget (utility actual : String)
  | missingSelectionKey (key target : String)
  | unpromotedField (field className : String)
  | promotedWithoutParameter (field className : String)
  | untypedField (field className : String)
  | emptyTuple
  | emptyStruct (kind : String)
  | duplicateProperty (name : String)
  | shortUnion
  | missingArm (value : String) (arm : Nat)
  | shortIntersection
  | mixedIntersection
  | notAStruct (member : String)
  | shapelessIntersection
  | impossibleCast (node target strategy : String)
  | notBrandable (node : String)
  | notSelectable (node : String)
  | invalidPattern (source : String)
  | custom (text : String)
  | within (cause : SyntaxError.Cause) (place : SyntaxError.Place) (name : String)

/-- A cause, and the token it was found at.  The text is empty as long as the cause belongs to a
node that is built outside of any text. -/
structure SyntaxError where
  cause : SyntaxError.Cause
  /-- Code points before the token. -/
  offset : Nat
  /-- The text of the token, empty at the end of the input. -/
  token : String
  /-- The type string the token stands in. -/
  input : String

namespace SyntaxError

def Place.keyword : Place → String
  | .alias => "alias"
  | .field => "field"
  | .object => "object"

def Cause.message : Cause → String
  | .unterminatedString => "unterminated string literal"
  | .unexpectedEnd => "unexpected end of input"
  | .expectedToken expected actual => s!"expected '{expected}', got '{actual}'"
  | .expectedIdentifier actual => s!"expected identifier, got '{actual}'"
  | .unexpectedAfterType actual => s!"unexpected '{actual}' after type"
  | .nestedTooDeep levels => s!"type nested deeper than {levels} levels"
  | .unknownType name => s!"unknown type '{name}'"
  | .missingType => "expected a type, got end of input"
  | .notAType actual => s!"expected a type, got '{actual}'"
  | .notABound actual => s!"expected an integer bound, 'min' or 'max', got '{actual}'"
  | .crossedBounds lower upper => s!"int lower bound {lower} exceeds upper bound {upper}"
  | .unknownEnumCase enumeration case =>
      s!"constant refers to unknown enum case {enumeration}::{case}"
  | .noMatchingConstant pattern => s!"no constant matches '{pattern}'"
  | .noSuchCase enumeration name => s!"enum {enumeration} has no case or constant '{name}'"
  | .undefinedConstant pattern => s!"undefined constant {pattern}"
  | .recursiveAlias name => s!"recursive alias '{name}'"
  | .recursiveObject name => s!"recursive object type '{name}'"
  | .listKey => "list keys are always int"
  | .arrayKey actual => s!"array key type must be string or int, got '{actual}'"
  | .tupleKey actual expected => s!"tuple key {actual} out of order, expected {expected}"
  | .notAPropertyName actual => s!"expected property name, got '{actual}'"
  | .selectionKeys utility actual =>
      s!"{utility} keys must be a string literal or a union of string literals, got '{actual}'"
  | .selectionTarget utility actual => s!"{utility} target must be a struct, got '{actual}'"
  | .missingSelectionKey key target => s!"Pick key '{key}' is not a property of '{target}'"
  | .unpromotedField field className =>
      s!"field '{field}' of {className} shares its name with a constructor parameter " ++
        "but is not promoted"
  | .promotedWithoutParameter field className =>
      s!"promoted field '{field}' of {className} has no constructor parameter"
  | .untypedField field className => s!"field '{field}' of {className} has no type"
  | .emptyTuple => "tuple must have at least one element"
  | .emptyStruct kind => s!"{kind} struct must have at least one property"
  | .duplicateProperty name => s!"duplicate property '{name}'"
  | .shortUnion => "union must have at least two members"
  | .missingArm value arm => s!"discriminator value {value} maps to missing arm {arm}"
  | .shortIntersection => "intersection must have at least two members"
  | .mixedIntersection => "intersection mixes array and object shapes"
  | .notAStruct node => s!"intersection member '{node}' is not a struct"
  | .shapelessIntersection => "intersection has no member with a known shape"
  | .impossibleCast node target strategy =>
      s!"cannot cast '{node}' into {target} with the {strategy} strategy"
  | .notBrandable node => s!"only int and string can be branded, got '{node}'"
  | .notSelectable node => s!"cannot select properties of '{node}'"
  | .invalidPattern source => s!"invalid pattern '{source}'"
  | .custom text => text
  | .within cause place name => s!"{cause.message} (in {place.keyword} '{name}')"

def unlocated (cause : Cause) : SyntaxError :=
  { cause, offset := 0, token := "", input := "" }

def locate (error : SyntaxError) (input : String) (offset : Nat) (token : String) : SyntaxError :=
  if error.input.isEmpty then { error with input, offset, token } else error

def within (error : SyntaxError) (place : Place) (name : String) : SyntaxError :=
  { error with cause := .within error.cause place name }

def message (error : SyntaxError) : String :=
  error.cause.message

def display (error : SyntaxError) : String :=
  s!"{error.message} at offset {error.offset} in '{error.input}'"

/-- The input, and below it a caret for each character of the token, at least one. -/
def pointer (error : SyntaxError) : String :=
  error.input ++ "\n" ++ String.ofList (List.replicate error.offset ' ') ++
    String.ofList (List.replicate (max 1 error.token.length) '^')

def toJson (error : SyntaxError) : Json :=
  .ofMembers
    [("input", .string error.input), ("message", .string error.message),
      ("offset", .ofNat error.offset), ("token", .string error.token)]

end SyntaxError

end Schemata
