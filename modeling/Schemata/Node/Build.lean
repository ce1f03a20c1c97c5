import Schemata.Node.Canonical

/-!
# Building nodes

The constructors that check what a well-formed node has to satisfy: tuples and structs are not
empty, property names are unique, unions and intersections have at least two members, the members
of an intersection share one struct kind, casts wrap what their strategy takes, and brands wrap
integers and strings.
-/

namespace Schemata.Node

open SyntaxError (unlocated)

def tupleOf (elements : List Node) : Except SyntaxError Node :=
  if elements.isEmpty then .error (unlocated .emptyTuple) else .ok (.tuple elements)

def duplicate? : (seen names : List String) → Option String
  | _, [] => none
  | seen, name :: rest =>
      if seen.contains name then some name else duplicate? (name :: seen) rest

def structOf (kind : StructKind) (properties : List (Property Node)) : Except SyntaxError Node :=
  if properties.isEmpty then .error (unlocated (.emptyStruct kind.keyword))
  else
    match duplicate? [] (properties.map Property.name) with
    | some name => .error (unlocated (.duplicateProperty name))
    | none => .ok (.struct kind properties)

def unionOf (members : List Node) : Except SyntaxError Node :=
  if members.length < 2 then .error (unlocated .shortUnion) else .ok (.union members none)

/-- A union of at least two members, whose discriminator names members only. -/
def discriminatedUnionOf (members : List Node) (discriminator : Discriminator) :
    Except SyntaxError Node :=
  if members.length < 2 then .error (unlocated .shortUnion)
  else
    match discriminator.arms.find? fun arm => members.length ≤ arm.2 with
    | some arm => .error (unlocated (.missingArm arm.1 arm.2))
    | none => .ok (.union members (some discriminator))

/-- The struct kind that some members share, starting from the kind found so far.  A reference has
no known kind and is passed over. -/
def sharedKind : Option StructKind → List Node → Except SyntaxError (Option StructKind)
  | kind, [] => .ok kind
  | kind, member :: rest =>
      match member.structKind? with
      | some found =>
          if kind.any (· ≠ found) then .error (unlocated .mixedIntersection)
          else sharedKind (some found) rest
      | none =>
          if member.unwrapped.isRef then sharedKind kind rest
          else .error (unlocated (.notAStruct member.canonical))

/-- An intersection of at least two structs of one kind, at least one of which shows its kind. -/
def intersectionOf (members : List Node) : Except SyntaxError Node :=
  if members.length < 2 then .error (unlocated .shortIntersection)
  else
    match sharedKind none members with
    | .error error => .error error
    | .ok none => .error (unlocated .shapelessIntersection)
    | .ok (some kind) => .ok (.intersection members kind)

def intersectionOfKind (kind : StructKind) (members : List Node) : Except SyntaxError Node :=
  if members.length < 2 then .error (unlocated .shortIntersection)
  else if members.any fun member => member.structKind?.any (· ≠ kind) then
    .error (unlocated .mixedIntersection)
  else .ok (.intersection members kind)

def canCast (strategy : CastingStrategy) (inner : Node) : Bool :=
  match strategy, inner.unwrapped with
  | _, .ref _ => true
  | .collection, .list _ => true
  | .collection, _ => false
  | _, .struct .. => true
  | _, _ => false

/-- A cast of a list for collections, and of a struct for all other strategies. -/
def castTo (inner : Node) (target : String) (strategy : CastingStrategy) :
    Except SyntaxError Node :=
  if canCast strategy inner then .ok (.cast inner target strategy)
  else .error (unlocated (.impossibleCast inner.canonical target strategy.keyword))

def brandedAs (inner : Node) (tag : String) : Except SyntaxError Node :=
  match inner with
  | .builtIn .int | .builtIn .string => .ok (.branded inner tag)
  | other => .error (unlocated (.notBrandable other.canonical))

/-- Keeps or drops the properties with the given names, under labels and casts. -/
def selectProperties (keys : List String) (keep : Bool) : Node → Except SyntaxError Node
  | .named inner name => (selectProperties keys keep inner).map (.named · name)
  | .cast inner target strategy =>
      (selectProperties keys keep inner).map (.cast · target strategy)
  | .struct kind properties =>
      structOf kind (properties.filter fun property => keys.contains property.name == keep)
  | other => .error (unlocated (.notSelectable other.canonical))

end Schemata.Node
