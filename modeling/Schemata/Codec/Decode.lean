import Schemata.Codec.Basic
import Schemata.Codec.Coercion
import Schemata.Node.Discriminator

/-!
# Decoding

Wire data becomes a typed value along a node.  Structs take the properties of the input side in the
order of their names.  A union with a discriminator goes by its field, and any other union takes the
first member that fits.
-/

namespace Schemata

def Json.typeName : Json → String
  | .null => "null"
  | .bool _ => "bool"
  | .number (.integer ..) => "int"
  | .number (.float ..) => "float"
  | .string _ => "string"
  | .array _ => "list"
  | .object _ => "map"

def StructKind.value (kind : StructKind) (entries : Dict Value) : Value :=
  match kind with
  | .array => .map entries
  | .object => .object entries

def Literal.toValue : Literal → Value
  | .bool value => .bool value
  | .int value => .int value
  | .float value => .float value
  | .string value => .string value
  | .enumCase enumeration case => .enumCase enumeration case

namespace Codec

def ownPrimitive? : BuiltIn → Json → Option Value
  | .mixed, wire => some (.ofJson wire)
  | .null, .null => some .null
  | .string, .string text => some (.string text)
  | .bool, .bool value => some (.bool value)
  | .int, .number number => number.toInt64?.map .int
  | .float, .number number => some (.float number.toBinary64)
  | _, _ => none

def coercedPrimitive? : BuiltIn → Json → Option Value
  | .string, wire => (Coercion.toString? wire).map .string
  | .bool, wire => (Coercion.toBool? wire).map .bool
  | .int, wire => (Coercion.toInt? wire).map .int
  | .float, wire => (Coercion.toFloat? wire).map .float
  | _, _ => none

def primitive? (codec : Codec) (kind : BuiltIn) (wire : Json) : Option Value :=
  match ownPrimitive? kind wire with
  | some value => some value
  | none => if codec.options.coercePrimitives then coercedPrimitive? kind wire else none

/-- Whether wire data stands for a literal.  Numbers are never coerced to number literals. -/
def isLiteral (codec : Codec) (literal : Literal) (wire : Json) : Bool :=
  let coerce := codec.options.coercePrimitives
  match literal, wire with
  | .bool value, .bool found => found == value
  | .bool value, other => coerce && Coercion.toBool? other == some value
  | .int value, .number found => found.toInt64? == some value
  | .int value, other => coerce && Coercion.toInt? other == some value
  | .float value, .number found => found.toBinary64.numEq value
  | .float value, other => coerce && (Coercion.toFloat? other).any (·.numEq value)
  | .string value, .string found => found == value
  | .string value, other => coerce && Coercion.toString? other == some value
  | .enumCase _ case, .string found => found == case
  | .enumCase .., _ => false

def decodeCase (codec : Codec) (node : Node) (name : String) : Json → Walk Value
  | .string case => do
      let cases ← codec.enumCases name
      if cases.contains case then return .enumCase name case
      else Walk.fail (.invalidEnumCase name case cases)
  | other => codec.invalidType node other.typeName

def decodeMoment (codec : Codec) (node : Node) (className : String) (format : DateTimeFormat) :
    Json → Walk Value
  | .string text =>
      match format.read text with
      | .ok moment => return .dateTime className moment
      | .error error => Walk.fail (.unreadableMoment text format error.message)
  | other => codec.invalidType node other.typeName

def decodeArm (codec : Codec) (child : Node → Json → Walk Value) (node : Node)
    (members : List Node) (discriminator : Discriminator) : Json → Walk Value
  | .object entries =>
      match Dict.get? entries discriminator.field with
      | none => Walk.within (.key discriminator.field) (Walk.fail .missingDiscriminator)
      | some tag =>
          match (discriminator.armFor? tag).bind (members[·]?) with
          | some member => child member (.object entries)
          | none => Walk.within (.key discriminator.field) <|
              Walk.fail (.unknownDiscriminator tag (Dict.keys discriminator.arms))
  | other => codec.invalidType node other.typeName

def decodeFirst (codec : Codec) (child : Node → Json → Walk Value) (node : Node)
    (members : List Node) (wire : Json) : Walk Value := do
  match ← Walk.firstOf (child · wire) members with
  | some value => return value
  | none => Walk.fail (.unionNoMatch (codec.describe node) wire.typeName)

/-- The entries that the members of an intersection take from the same data, a later member winning
over an earlier one. -/
def decodeMembers (codec : Codec) (child : Node → Json → Walk Value) (wire : Json) :
    (merged : Dict Value) → List Node → Walk (Dict Value)
  | merged, [] => return merged
  | merged, member :: rest => do
      let value ← child member wire
      match ← codec.entriesOf value with
      | some entries => codec.decodeMembers child wire (Dict.merge merged entries) rest
      | none => codec.invalidType member value.typeName

def build (codec : Codec) (inner : Node) (target : String) (strategy : CastingStrategy)
    (value : Value) : Walk Value := do
  let found ← codec.hostClass target
  let built ← match strategy, value with
    | .collection, .list items => pure (found.collect items)
    | .constructor, .map entries | .constructor, .object entries => pure (found.construct entries)
    | .assignProperties, .map entries | .assignProperties, .object entries =>
        pure (found.assign entries)
    | _, other => codec.invalidType inner other.typeName
  match built with
  | .ok hosted => return hosted.toValue
  | .error message => Walk.fail (.castingFailed target message)

/-- Decodes data along a node that is no reference, given how its children are decoded. -/
def decodeShape (codec : Codec) (child : Node → Json → Walk Value) (node : Node) (wire : Json) :
    Walk Value :=
  match node with
  | .builtIn kind =>
      match codec.primitive? kind wire with
      | some value => return value
      | none => codec.invalidType node wire.typeName
  | .literal literal =>
      if codec.isLiteral literal wire then return literal.toValue
      else Walk.fail (.invalidLiteral (codec.describe node) wire)
  | .enumeration name => codec.decodeCase node name wire
  | .dateTime className format => codec.decodeMoment node className format wire
  | .list item =>
      match wire with
      | .array items => return .list (← Walk.items (child item) 0 items)
      | other => codec.invalidType node other.typeName
  | .record item =>
      match wire with
      | .object members => return .map (← Walk.entries (child item) members)
      | other => codec.invalidType node other.typeName
  | .tuple nodes =>
      match wire with
      | .array items => return .list (← Walk.elements child nodes items)
      | other => codec.invalidType node other.typeName
  | .struct kind properties =>
      match wire with
      | .object members => do
          let read := (sortedProperties properties).filter (·.direction.isInput)
          return kind.value (← Walk.properties child members read)
      | other => codec.invalidType node other.typeName
  | .union members (some discriminator) => codec.decodeArm child node members discriminator wire
  | .union members none => codec.decodeFirst child node members wire
  | .intersection members kind =>
      match wire with
      | .object _ => return kind.value (← codec.decodeMembers child wire [] members)
      | other => codec.invalidType node other.typeName
  | .constrained inner validators => do
      let value ← child inner wire
      Walk.validate value validators
      return value
  | .cast inner target strategy => do
      codec.build inner target strategy (← child inner wire)
  | .branded inner _ => child inner wire
  | .named inner _ => child inner wire
  | .ref key => Walk.defect (.unresolved (.unknownKey key))

/-- Decodes data along a node with a number of levels left.  A reference takes no level of its
own. -/
def decodeWithin (codec : Codec) : (levels : Nat) → Node → Json → Walk Value
  | 0, _, _ => Walk.fail (.depthExceeded codec.options.maxDepth)
  | levels + 1, node, wire => do
      codec.decodeShape (codec.decodeWithin levels) (← codec.target node) wire

def decode (codec : Codec) (node : Node) (wire : Json) : Except CodecError Value :=
  Walk.conclude (codec.decodeWithin codec.options.maxDepth node wire)

end Codec

end Schemata
