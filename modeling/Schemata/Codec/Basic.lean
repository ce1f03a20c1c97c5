import Schemata.Issue
import Schemata.Node.Canonical
import Schemata.NodeRegistry
import Schemata.TypeRegistry

/-!
# Walks

A walk takes a node and data to a value.  It reports problems with the data at their paths, and it
ends early at the first problem that leaves it without a value.  Faults of the setup, which no data
can cause, end it for good.
-/

namespace Schemata

inductive Defect where
  | unresolved (cause : LookupError)
  | unknownTarget (name : String)

structure CodecOptions where
  /-- Whether strings, numbers and truth values on the wire are accepted for one another. -/
  coercePrimitives : Bool := false
  /-- The number of nodes a walk passes through before it gives up. -/
  maxDepth : Nat := 128

/-- What a walk refers to: the known types, the nodes behind references, and the options. -/
structure Codec where
  types : TypeRegistry
  nodes : Option NodeRegistry := none
  options : CodecOptions := {}

inductive Walk.Stop where
  /-- There is nothing where a value was looked for. -/
  | absent
  /-- The report says what is wrong with the data. -/
  | invalid
  | defect (fault : Defect)

/-- A walk: it extends a report, and gives a value or stops. -/
abbrev Walk := EStateM Walk.Stop Report

inductive CodecError where
  | invalid (failure : Failure)
  | defect (fault : Defect)

def Defect.message : Defect → String
  | .unresolved cause => s!"unresolved reference: {cause.message}"
  | .unknownTarget name => s!"no type registered for '{name}'"

def CodecError.message : CodecError → String
  | .invalid failure => s!"invalid data: {failure.display}"
  | .defect fault => fault.message

def CodecError.toJson : CodecError → Json
  | .invalid failure => .ofMembers [("issues", failure.toJson)]
  | .defect fault => .ofMembers [("error", .string fault.message)]

namespace Issue

def missingValue : Issue :=
  { key := "missing_value" }

def missingProperty : Issue :=
  { key := "missing_property" }

def missingDiscriminator : Issue :=
  { key := "missing_discriminator" }

def unknownDiscriminator (value : Json) (expected : List String) : Issue :=
  { key := "unknown_discriminator"
    debug := some (.ofMembers [("value", value), ("expected", .ofStrings expected)]) }

def depthExceeded (limit : Nat) : Issue :=
  { key := "depth_exceeded", debug := some (.ofMembers [("max_depth", .ofNat limit)]) }

def invalidType (expected actual : String) : Issue :=
  { key := "invalid_type"
    debug := some (.ofMembers [("expected", .string expected), ("actual", .string actual)]) }

def invalidLiteral (expected : String) (actual : Json) : Issue :=
  { key := "invalid_literal"
    debug := some (.ofMembers [("expected", .string expected), ("actual", actual)]) }

def unionNoMatch (expected actual : String) : Issue :=
  { key := "union_no_match"
    debug := some (.ofMembers [("expected", .string expected), ("actual", .string actual)]) }

def invalidEnumCase (enumeration value : String) (cases : List String) : Issue :=
  { key := "invalid_enum_case"
    debug := some (.ofMembers [("enum", .string enumeration), ("value", .string value),
      ("cases", .ofStrings cases)]) }

def invalidTupleLength (expected actual : Nat) : Issue :=
  { key := "invalid_tuple_length"
    debug := some (.ofMembers [("expected", .ofNat expected), ("actual", .ofNat actual)]) }

def unreadableMoment (text : String) (format : DateTimeFormat) (message : String) : Issue :=
  { key := "invalid_datetime"
    debug := some (.ofMembers [("value", .string text), ("format", .string format.display),
      ("message", .string message)]) }

def unwritableMoment (format : DateTimeFormat) (message : String) : Issue :=
  { key := "invalid_datetime"
    debug := some (.ofMembers [("format", .string format.display), ("message", .string message)]) }

def castingFailed (target message : String) : Issue :=
  { key := "casting_failed"
    debug := some (.ofMembers [("target", .string target), ("message", .string message)]) }

def ofValidator (validator : Validator) : Issue :=
  { key := validator.key, debug := some validator.payload }

end Issue

namespace Walk

variable {α β : Type}

def report (issue : Issue) : Walk Unit :=
  modify (·.add issue)

def fail (issue : Issue) : Walk α := do
  report issue
  throw .invalid

def defect (fault : Defect) : Walk α :=
  throw (.defect fault)

def within (segment : Segment) (walk : Walk α) : Walk α := fun report =>
  match walk (report.enter segment) with
  | .ok value after => .ok value after.leave
  | .error stop after => .error stop after.leave

def optional (walk : Walk α) : Walk (Option α) := fun report =>
  match walk report with
  | .ok value after => .ok (some value) after
  | .error .absent after => .ok none after
  | .error stop after => .error stop after

/-- Tries a walk apart from the issues found so far.  Its own issues are dropped unless it comes to
a value. -/
def attempt (walk : Walk α) : Walk (Option α) := fun report =>
  match walk { report with issues := [] } with
  | .ok value after => .ok (some value) { after with issues := report.issues.merge after.issues }
  | .error (.defect fault) after => .error (.defect fault) after
  | .error _ after => .ok none { after with issues := report.issues }

/-- The value of the first choice that comes to one. -/
def firstOf (walk : β → Walk α) : List β → Walk (Option α)
  | [] => return none
  | choice :: rest => do
      match ← attempt (walk choice) with
      | some value => return some value
      | none => firstOf walk rest

def items (walk : β → Walk α) : (index : Nat) → List β → Walk (List α)
  | _, [] => return []
  | index, item :: rest => do
      let value ← within (.index index) (walk item)
      let values ← items walk (index + 1) rest
      return value :: values

def elements (walk : Node → β → Walk α) (nodes : List Node) (values : List β) : Walk (List α) :=
  if values.length = nodes.length then
    items (fun pair => walk pair.1 pair.2) 0 (nodes.zip values)
  else fail (.invalidTupleLength nodes.length values.length)

def entries (walk : β → Walk α) : List (String × β) → Walk (List (String × α))
  | [] => return []
  | (key, item) :: rest => do
      let value ← within (.key key) (walk item)
      let values ← entries walk rest
      return (key, value) :: values

/-- Walks the members of a value along some properties, in the order of the properties.  One that is
absent is left out if it is optional. -/
def properties (walk : Node → β → Walk α) (members : Dict β) :
    List (Property Node) → Walk (Dict α)
  | [] => return []
  | property :: rest => do
      let found ← optional <| within (.key property.name) <|
        match Dict.get? members property.name with
        | some member => walk property.node member
        | none => throw .absent
      match found with
      | some value =>
          let values ← properties walk members rest
          return (property.name, value) :: values
      | none =>
          if property.optional then properties walk members rest
          else within (.key property.name) (fail .missingProperty)

/-- Reports every validator that a value does not pass, and stops if there is one. -/
def validate (value : Value) (validators : List Validator) : Walk Unit := do
  let failed := validators.filter fun validator => !validator.check value
  failed.forM fun validator => report (.ofValidator validator)
  if failed.isEmpty then return ()
  else throw .invalid

/-- The result of a whole walk.  A value counts only if no issue was reported. -/
def conclude (walk : Walk α) : Except CodecError α :=
  match walk {} with
  | .ok value report =>
      if report.hasIssues then .error (.invalid report.failure) else .ok value
  | .error .absent report => .error (.invalid (report.add .missingValue).failure)
  | .error .invalid report => .error (.invalid report.failure)
  | .error (.defect fault) _ => .error (.defect fault)

end Walk

namespace Codec

variable {α : Type}

/-- The node that a walk goes along: what a reference stands for, and any other node itself. -/
def target (codec : Codec) : Node → Walk Node
  | .ref key =>
      match codec.nodes with
      | none => Walk.defect (.unresolved (.unknownKey key))
      | some nodes =>
          match nodes.lookup key >>= nodes.follow with
          | .ok node => return node
          | .error cause => Walk.defect (.unresolved cause)
  | node => return node

def describe (codec : Codec) (node : Node) : String :=
  match codec.nodes with
  | some nodes =>
      match nodes.resolve node with
      | .ok resolved => resolved.canonical
      | .error _ => node.canonical
  | none => node.canonical

def invalidType (codec : Codec) (node : Node) (actual : String) : Walk α :=
  Walk.fail (.invalidType (codec.describe node) actual)

def hostClass (codec : Codec) (name : String) : Walk HostClass :=
  match codec.types.object? name with
  | some found => return found
  | none => Walk.defect (.unknownTarget name)

def enumCases (codec : Codec) (name : String) : Walk (List String) :=
  match codec.types.enum? name with
  | some cases => return cases
  | none => Walk.defect (.unknownTarget name)

/-- The fields of an instance, as far as its class shows any.  A class that refuses is reported. -/
def fieldsOf (codec : Codec) (hosted : HostInstance) : Walk (Option (Dict Value)) := do
  let found ← codec.hostClass hosted.className
  match found.flatten hosted with
  | .ok fields => return some fields
  | .error message =>
      Walk.report (.castingFailed hosted.className message)
      return none

def entriesOf (codec : Codec) : Value → Walk (Option (Dict Value))
  | .map entries | .object entries => return some entries
  | .host className fields => codec.fieldsOf { className, fields }
  | _ => return none

end Codec

end Schemata
