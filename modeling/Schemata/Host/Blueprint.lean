import Schemata.Host.Basic

/-!
# Blueprints

A class given by data alone.  Building takes the values it is given between default values and
values that are always set, unless a rule refuses one of them; taking apart shows the fields that
can be read.
-/

namespace Schemata

structure Rejection where
  field : String
  value : Value
  message : String

structure Blueprint where
  name : String
  shape : ClassShape
  rejections : List Rejection := []
  defaults : List (String × Value) := []
  overrides : List (String × Value) := []
  /-- The fields that can be read, or all of them. -/
  readable : Option (List String) := none
  /-- The message with which taking apart always fails. -/
  sealedBy : Option String := none
  /-- Whether no way of building is supported. -/
  bare : Bool := false

namespace Blueprint

def build (blueprint : Blueprint) (values : List (String × Value)) : Except String HostInstance :=
  let refused := blueprint.rejections.find? fun rejection =>
    (Dict.get? values rejection.field).any (·.isEqual rejection.value)
  match refused with
  | some rejection => .error rejection.message
  | none => .ok
      { className := blueprint.name
        fields := some (Dict.merge (Dict.merge blueprint.defaults values) blueprint.overrides) }

def flatten (blueprint : Blueprint) (hosted : HostInstance) :
    Except String (List (String × Value)) :=
  match blueprint.sealedBy, hosted.fields with
  | some message, _ => .error message
  | none, none => .error s!"not an instance of {blueprint.name}"
  | none, some fields => .ok <|
      match blueprint.readable with
      | some names => fields.filter fun field => names.contains field.1
      | none => fields

def toClass (blueprint : Blueprint) : HostClass :=
  if blueprint.bare then
    { name := blueprint.name, shape := blueprint.shape, flatten := blueprint.flatten }
  else
    { name := blueprint.name
      shape := blueprint.shape
      construct := blueprint.build
      assign := blueprint.build
      collect := fun items => blueprint.build [("items", .list items)]
      flatten := blueprint.flatten }

end Blueprint

end Schemata
