import Schemata.Moment.Format
import Schemata.Validator

/-!
# Type nodes

The tree a type string stands for.  Nodes are plain data; what a well-formed node has to satisfy is
checked where nodes are built.
-/

namespace Schemata

inductive BuiltIn where
  | string
  | int
  | bool
  | null
  | float
  | mixed
  deriving DecidableEq

/-- A pinned scalar or enum case. -/
inductive Literal where
  | bool (value : Bool)
  | int (value : Int64)
  | float (value : Binary64)
  | string (value : String)
  | enumCase (enumeration case : String)
  deriving DecidableEq

/-- Whether struct values are maps or objects. -/
inductive StructKind where
  | array
  | object
  deriving DecidableEq

/-- The sides of a schema a property takes part in. -/
inductive Direction where
  | input
  | output
  | both
  deriving DecidableEq

inductive CastingStrategy where
  /-- The constructor is called with the struct's values. -/
  | constructor
  /-- A default instance is made and its fields are assigned. -/
  | assignProperties
  /-- The items of a list are collected. -/
  | collection
  deriving DecidableEq

structure Property (ν : Type) where
  name : String
  node : ν
  optional : Bool
  direction : Direction

/-- The field whose literal value selects one arm of a union, by the value's text on the wire. -/
structure Discriminator where
  field : String
  arms : List (String × Nat)
  deriving DecidableEq

inductive Node where
  | builtIn (kind : BuiltIn)
  | literal (value : Literal)
  | enumeration (name : String)
  | dateTime (className : String) (format : DateTimeFormat)
  | list (item : Node)
  /-- A map from strings. -/
  | record (item : Node)
  | tuple (elements : List Node)
  | struct (kind : StructKind) (properties : List (Property Node))
  | union (members : List Node) (discriminator : Option Discriminator)
  /-- The members together with the struct kind they share. -/
  | intersection (members : List Node) (kind : StructKind)
  | constrained (inner : Node) (validators : List Validator)
  | cast (inner : Node) (target : String) (strategy : CastingStrategy)
  /-- A nominal tag over an integer or a string. -/
  | branded (inner : Node) (tag : String)
  /-- A label without meaning for values. -/
  | named (inner : Node) (name : String)
  | ref (key : String)

def BuiltIn.keyword : BuiltIn → String
  | .string => "string"
  | .int => "int"
  | .bool => "bool"
  | .null => "null"
  | .float => "float"
  | .mixed => "mixed"

def StructKind.keyword : StructKind → String
  | .array => "array"
  | .object => "object"

def Direction.keyword : Direction → String
  | .input => "input"
  | .output => "output"
  | .both => "both"

def CastingStrategy.keyword : CastingStrategy → String
  | .constructor => "constructor"
  | .assignProperties => "assign_properties"
  | .collection => "collection"

def Direction.isInput : Direction → Bool
  | .output => false
  | _ => true

def Direction.isOutput : Direction → Bool
  | .input => false
  | _ => true

def Direction.isOn (direction side : Direction) : Bool :=
  match side with
  | .input => direction.isInput
  | .output => direction.isOutput
  | .both => true

def Literal.isEqual : Literal → Literal → Bool
  | .float left, .float right => left.numEq right
  | left, right => left == right

namespace Node

instance : Inhabited Node :=
  ⟨.builtIn .null⟩

def unwrapped : Node → Node
  | .constrained inner _ => inner.unwrapped
  | .named inner _ => inner.unwrapped
  | node => node

def isRef : Node → Bool
  | .ref _ => true
  | _ => false

/-- The struct kind at the root, under wrappers and casts. -/
def structKind? : Node → Option StructKind
  | .constrained inner _ => inner.structKind?
  | .named inner _ => inner.structKind?
  | .cast inner _ _ => inner.structKind?
  | .struct kind _ => some kind
  | .intersection _ kind => some kind
  | _ => none

def struct? : Node → Option (StructKind × List (Property Node))
  | .constrained inner _ => inner.struct?
  | .named inner _ => inner.struct?
  | .struct kind properties => some (kind, properties)
  | _ => none

def isLeaf : Node → Bool
  | .builtIn _ => true
  | .literal _ => true
  | .enumeration _ => true
  | .dateTime .. => true
  | _ => false

def variantName : Node → String
  | .builtIn _ => "built_in"
  | .literal _ => "literal"
  | .enumeration _ => "enum"
  | .dateTime .. => "date_time"
  | .list _ => "list"
  | .record _ => "record"
  | .tuple _ => "tuple"
  | .struct .. => "struct"
  | .union .. => "union"
  | .intersection .. => "intersection"
  | .constrained .. => "constraint"
  | .cast .. => "custom_casting"
  | .branded .. => "branded"
  | .named .. => "named"
  | .ref _ => "lazy_ref"

mutual

/-- Whether two nodes are equal, the declaration order of properties included.  Doubles are
compared as numbers. -/
def isEqual : Node → Node → Bool
  | .builtIn kind, .builtIn kind' => kind == kind'
  | .literal value, .literal value' => value.isEqual value'
  | .enumeration name, .enumeration name' => name == name'
  | .dateTime className format, .dateTime className' format' =>
      className == className' && format == format'
  | .list item, .list item' => isEqual item item'
  | .record item, .record item' => isEqual item item'
  | .tuple elements, .tuple elements' => areEqual elements elements'
  | .struct kind properties, .struct kind' properties' =>
      kind == kind' && areEqualProperties properties properties'
  | .union members discriminator, .union members' discriminator' =>
      discriminator == discriminator' && areEqual members members'
  | .intersection members kind, .intersection members' kind' =>
      kind == kind' && areEqual members members'
  | .constrained inner validators, .constrained inner' validators' =>
      isEqual inner inner' && validators.length == validators'.length &&
        (validators.zip validators').all fun pair => pair.1.isEqual pair.2
  | .cast inner target strategy, .cast inner' target' strategy' =>
      target == target' && strategy == strategy' && isEqual inner inner'
  | .branded inner tag, .branded inner' tag' => tag == tag' && isEqual inner inner'
  | .named inner name, .named inner' name' => name == name' && isEqual inner inner'
  | .ref key, .ref key' => key == key'
  | _, _ => false

def areEqual : List Node → List Node → Bool
  | [], [] => true
  | left :: lefts, right :: rights => isEqual left right && areEqual lefts rights
  | _, _ => false

def areEqualProperties : List (Property Node) → List (Property Node) → Bool
  | [], [] => true
  | ⟨name, node, optional, direction⟩ :: rest, ⟨name', node', optional', direction'⟩ :: rest' =>
      name == name' && optional == optional' && direction == direction' && isEqual node node' &&
        areEqualProperties rest rest'
  | _, _ => false

end

end Node

end Schemata
