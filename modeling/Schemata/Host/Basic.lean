import Schemata.Validator

/-!
# Host classes

What the surrounding program supplies about its classes: the fields and constructor parameters a
class is expanded to, and how its instances are built and taken apart.
-/

namespace Schemata

structure FieldDecl where
  name : String
  /-- The type string, read in the context of the class. -/
  typeText : String
  optional : Bool := false
  /-- Whether the field backs the constructor parameter of its name. -/
  promoted : Bool := false
  validators : List Validator := []

inductive ClassShape where
  /-- Constructor parameters, if there is a constructor, and readable fields. -/
  | object (parameters : Option (List FieldDecl)) (fields : List FieldDecl)
  | collection (item : String)

/-- An instance: its class, and its fields unless its payload is foreign. -/
structure HostInstance where
  className : String
  fields : Option (List (String × Value))

/-- A class: its shape, the three ways to build an instance, and the way to take one apart.  Each
of them can refuse with a message. -/
structure HostClass where
  name : String
  shape : ClassShape
  construct : List (String × Value) → Except String HostInstance :=
    fun _ => .error s!"{name} does not support construction"
  assign : List (String × Value) → Except String HostInstance :=
    fun _ => .error s!"{name} does not support property assignment"
  collect : List Value → Except String HostInstance :=
    fun _ => .error s!"{name} does not support collection building"
  /-- The readable fields, or the list of a collection under `items`. -/
  flatten : HostInstance → Except String (List (String × Value))

def HostInstance.toValue (hosted : HostInstance) : Value :=
  .host hosted.className hosted.fields

end Schemata
