import Schemata.Codec.Decode

/-!
# Encoding

A typed value becomes wire data along a node.  Nothing is coerced.  Structs give the properties of
the output side in the order of their names, and instances of host classes are taken apart first.
-/

namespace Schemata

def Json.shapeName : Json → String
  | .number _ => "number"
  | other => other.typeName

namespace Codec

def encodePrimitive? : BuiltIn → Value → Option Json
  | .mixed, value => value.toJson?
  | .null, .null => some .null
  | .string, .string text => some (.string text)
  | .bool, .bool value => some (.bool value)
  | .int, .int value => some (.ofInt64 value)
  | .float, .float value => (Json.Number.ofBinary64? value).map .number
  | .float, .int value => some (.ofInt64 value)
  | _, _ => none

def isLiteralValue : Literal → Value → Bool
  | .bool value, .bool found => value == found
  | .int value, .int found => value == found
  | .float value, .float found => value.numEq found
  | .string value, .string found => value == found
  | .enumCase enumeration case, .enumCase enumeration' case' =>
      enumeration == enumeration' && case == case'
  | _, _ => false

def encodeCase (codec : Codec) (node : Node) (name : String) (value : Value) : Walk Json :=
  match value with
  | .enumCase enumeration case =>
      if enumeration = name then do
        let cases ← codec.enumCases name
        if cases.contains case then return .string case
        else Walk.fail (.invalidEnumCase name case cases)
      else codec.invalidType node value.typeName
  | other => codec.invalidType node other.typeName

def encodeMoment (codec : Codec) (node : Node) (format : DateTimeFormat) : Value → Walk Json
  | .dateTime _ moment =>
      match format.write moment with
      | .ok text => return .string text
      | .error error => Walk.fail (.unwritableMoment format error.message)
  | other => codec.invalidType node other.typeName

def armOf? (members : List Node) (discriminator : Discriminator) (value : Value) :
    Option Node := do
  let entries ← value.properties?
  let field ← Dict.get? entries discriminator.field
  let tag ← field.toJson?
  let arm ← discriminator.armFor? tag
  members[arm]?

def encodeFirst (codec : Codec) (child : Node → Value → Walk Json) (node : Node)
    (members : List Node) (value : Value) : Walk Json := do
  match ← Walk.firstOf (child · value) members with
  | some wire => return wire
  | none => Walk.fail (.unionNoMatch (codec.describe node) value.typeName)

/-- The members that the parts of an intersection give for the same value, a later part winning over
an earlier one. -/
def encodeMembers (codec : Codec) (child : Node → Value → Walk Json) (value : Value) :
    (merged : Dict Json) → List Node → Walk (Dict Json)
  | merged, [] => return merged
  | merged, member :: rest => do
      match ← child member value with
      | .object entries => codec.encodeMembers child value (Dict.merge merged entries) rest
      | other => codec.invalidType member other.shapeName

def flattened (codec : Codec) (inner : Node) (target : String) (strategy : CastingStrategy)
    (hosted : HostInstance) : Walk Value :=
  if hosted.className = target then do
    match ← codec.fieldsOf hosted with
    | none => throw .invalid
    | some fields =>
        match strategy with
        | .collection =>
            match Dict.get? fields "items" with
            | some (.list items) => return .list items
            | _ => Walk.fail <|
                .castingFailed target "collection did not yield an 'items' list"
        | _ => return ((inner.structKind?).getD .object).value fields
  else codec.invalidType inner hosted.className

/-- Encodes a value along a node that is no reference, given how its children are encoded. -/
def encodeShape (codec : Codec) (child : Node → Value → Walk Json) (node : Node) (value : Value) :
    Walk Json :=
  match node with
  | .builtIn kind =>
      match encodePrimitive? kind value with
      | some wire => return wire
      | none => codec.invalidType node value.typeName
  | .literal literal =>
      if isLiteralValue literal value then return literal.toJson
      else Walk.fail (.invalidLiteral (codec.describe node) (.string value.typeName))
  | .enumeration name => codec.encodeCase node name value
  | .dateTime _ format => codec.encodeMoment node format value
  | .list item =>
      match value with
      | .list items => return .array (← Walk.items (child item) 0 items)
      | other => codec.invalidType node other.typeName
  | .record item =>
      match value.properties? with
      | some entries => return .object (← Walk.entries (child item) entries)
      | none => codec.invalidType node value.typeName
  | .tuple nodes =>
      match value with
      | .list items => return .array (← Walk.elements child nodes items)
      | other => codec.invalidType node other.typeName
  | .struct _ properties =>
      match value.properties? with
      | some entries => do
          let written := (sortedProperties properties).filter (·.direction.isOutput)
          return .object (← Walk.properties child entries written)
      | none => codec.invalidType node value.typeName
  | .union members discriminator =>
      match discriminator.bind (armOf? members · value) with
      | some member => child member value
      | none => codec.encodeFirst child node members value
  | .intersection members kind => do
      match ← codec.entriesOf value with
      | some entries =>
          return .object (← codec.encodeMembers child (kind.value entries) [] members)
      | none => codec.invalidType node value.typeName
  | .constrained inner validators => do
      let wire ← child inner value
      Walk.validate value validators
      return wire
  | .cast inner target strategy =>
      match value with
      | .host className fields => do
          child inner (← codec.flattened inner target strategy { className, fields })
      | other => child inner other
  | .branded inner _ => child inner value
  | .named inner _ => child inner value
  | .ref key => Walk.defect (.unresolved (.unknownKey key))

/-- Encodes a value along a node with a number of levels left.  A reference takes no level of its
own. -/
def encodeWithin (codec : Codec) : (levels : Nat) → Node → Value → Walk Json
  | 0, _, _ => Walk.fail (.depthExceeded codec.options.maxDepth)
  | levels + 1, node, value => do
      codec.encodeShape (codec.encodeWithin levels) (← codec.target node) value

def encode (codec : Codec) (node : Node) (value : Value) : Except CodecError Json :=
  Walk.conclude (codec.encodeWithin codec.options.maxDepth node value)

end Codec

end Schemata
