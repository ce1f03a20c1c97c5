import Schemata.Node.Basic

/-!
# Nodes as JSON trees

The JSON value of a node.  Each object names its kind under `node`, except that a cast and a brand
hold their inner node there.
-/

namespace Schemata

def Literal.tree : Literal → Json
  | .bool value => .ofMembers [("kind", .string "bool"), ("value", .bool value)]
  | .int value => .ofMembers [("kind", .string "int"), ("value", .ofInt64 value)]
  | .float value => .ofMembers [("kind", .string "float"), ("value", .ofBinary64 value)]
  | .string value => .ofMembers [("kind", .string "string"), ("value", .string value)]
  | .enumCase enumeration case =>
      .ofMembers [("kind", .string "enum_case"),
        ("value", .ofMembers [("name", .string enumeration), ("case", .string case)])]

def DateTimeFormat.tree : DateTimeFormat → Json
  | .rfc3339 => .ofMembers [("format", .string "rfc3339")]
  | .custom description =>
      .ofMembers [("format", .string "custom"), ("pattern", .string description)]

def Discriminator.tree (discriminator : Discriminator) : Json :=
  .ofMembers [("field", .string discriminator.field),
    ("arms", .object (Dict.mapValues Json.ofNat discriminator.arms))]

namespace Node

def tagged (kind : String) (members : List (String × Json)) : Json :=
  .ofMembers (("node", .string kind) :: members)

mutual

def tree : Node → Json
  | .builtIn kind => tagged "built_in" [("kind", .string kind.keyword)]
  | .literal value => tagged "literal" [("value", value.tree)]
  | .enumeration name => tagged "enum" [("name", .string name)]
  | .dateTime className format =>
      tagged "date_time" [("class", .string className), ("format", format.tree)]
  | .list item => tagged "list" [("of", tree item)]
  | .record item => tagged "record" [("of", tree item)]
  | .tuple elements => tagged "tuple" [("elements", .array (trees elements))]
  | .struct kind properties =>
      tagged "struct"
        [("kind", .string kind.keyword), ("properties", .array (propertyTrees properties))]
  | .union members discriminator =>
      let tags := match discriminator with
        | some discriminator => [("discriminator", discriminator.tree)]
        | none => []
      tagged "union" (("members", .array (trees members)) :: tags)
  | .intersection members kind =>
      tagged "intersection" [("members", .array (trees members)), ("kind", .string kind.keyword)]
  | .constrained inner validators =>
      tagged "constraint"
        [("of", tree inner), ("validators", .array (validators.map Validator.payload))]
  | .cast inner target strategy =>
      .ofMembers [("node", tree inner), ("target", .string target),
        ("strategy", .string strategy.keyword)]
  | .branded inner tag => .ofMembers [("node", tree inner), ("tag", .string tag)]
  | .named inner name => tagged "named" [("of", tree inner), ("name", .string name)]
  | .ref key => tagged "lazy_ref" [("key", .string key)]

def trees : List Node → List Json
  | [] => []
  | node :: rest => tree node :: trees rest

def propertyTrees : List (Property Node) → List Json
  | [] => []
  | ⟨name, node, optional, direction⟩ :: rest =>
      .ofMembers [("name", .string name), ("node", tree node), ("optional", .bool optional),
        ("direction", .string direction.keyword)] :: propertyTrees rest

end

end Node

end Schemata
