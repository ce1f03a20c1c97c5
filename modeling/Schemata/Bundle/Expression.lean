import Schemata.Node.Basic
import Schemata.Text.Escaped

/-!
# Constructor expressions

Nodes as the calls that build them, in the language of the module a bundle is written out as.
Constructors that check their arguments are followed by the mark that passes a failure on.
-/

namespace Schemata

/-- An expression that builds a value. -/
inductive Expression where
  | path (name : String)
  | bool (value : Bool)
  | natural (value : Nat)
  | integer (value : Int64)
  | float (value : Binary64)
  /-- A borrowed text. -/
  | text (content : String)
  /-- A text of its own. -/
  | owned (content : String)
  | pair (first second : Expression)
  | vector (items : List Expression)
  | collected (items : List Expression)
  | call (function : String) (arguments : List Expression)
  | record (name : String) (fields : List (String × Expression))
  | method (receiver : Expression) (name : String) (argument : Expression)
  /-- A result whose failure is passed on. -/
  | tried (inner : Expression)

namespace Expression

def integerText (value : Int64) : String :=
  if value = Int64.minValue then "i64::MIN"
  else if value = Int64.maxValue then "i64::MAX"
  else toString value.toInt

def floatText : Binary64 → String
  | .nan => "f64::NAN"
  | .infinite false => "f64::INFINITY"
  | .infinite true => "f64::NEG_INFINITY"
  | value => value.typeText

def commas (parts : List String) : String :=
  String.intercalate ", " parts

mutual

def render : Expression → String
  | .path name => name
  | .bool value => if value then "true" else "false"
  | .natural value => toString value
  | .integer value => integerText value
  | .float value => floatText value
  | .text content => Text.Escaped.ofString content
  | .owned content => Text.Escaped.ofString content ++ ".to_owned()"
  | .pair first second => "(" ++ render first ++ ", " ++ render second ++ ")"
  | .vector items => "vec![" ++ commas (renderAll items) ++ "]"
  | .collected items => "[" ++ commas (renderAll items) ++ "].into_iter().collect()"
  | .call function arguments => function ++ "(" ++ commas (renderAll arguments) ++ ")"
  | .record name fields => name ++ " \x7b " ++ commas (renderFields fields) ++ " \x7d"
  | .method receiver name argument =>
      render receiver ++ "." ++ name ++ "(" ++ render argument ++ ")"
  | .tried inner => render inner ++ "?"

def renderAll : List Expression → List String
  | [] => []
  | expression :: rest => render expression :: renderAll rest

def renderFields : List (String × Expression) → List String
  | [] => []
  | (name, expression) :: rest => (name ++ ": " ++ render expression) :: renderFields rest

end

def ofLiteral : Literal → Expression
  | .bool value => .call "LiteralValue::Bool" [.bool value]
  | .int value => .call "LiteralValue::Int" [.integer value]
  | .float value => .call "LiteralValue::Float" [.float value]
  | .string value => .call "LiteralValue::String" [.owned value]
  | .enumCase enumeration case =>
      .record "LiteralValue::EnumCase" [("name", .owned enumeration), ("case", .owned case)]

def ofValidator : Validator → Expression
  | .nonEmpty => .path "Validator::NonEmpty"
  | .nonFalsy => .path "Validator::NonFalsy"
  | .minLength least => .record "Validator::MinLength" [("min", .natural least)]
  | .maxLength most => .record "Validator::MaxLength" [("max", .natural most)]
  | .intRange low high =>
      .record "Validator::IntRange" [("min", .integer low), ("max", .integer high)]
  | .floatRange low high =>
      .record "Validator::FloatRange" [("min", .float low), ("max", .float high)]
  | .email => .path "Validator::Email"
  | .url => .path "Validator::Url"
  | .uuid => .path "Validator::Uuid"
  | .pattern matcher =>
      .record "Validator::Pattern"
        [("pattern", .tried (.call "Pattern::new" [.text matcher.source]))]

def ofBuiltIn : BuiltIn → Expression
  | .string => .path "BuiltIn::String"
  | .int => .path "BuiltIn::Int"
  | .bool => .path "BuiltIn::Bool"
  | .null => .path "BuiltIn::Null"
  | .float => .path "BuiltIn::Float"
  | .mixed => .path "BuiltIn::Mixed"

def ofStructKind : StructKind → Expression
  | .array => .path "StructKind::Array"
  | .object => .path "StructKind::Object"

def ofDirection : Direction → Expression
  | .input => .path "Direction::Input"
  | .output => .path "Direction::Output"
  | .both => .path "Direction::Both"

def ofStrategy : CastingStrategy → Expression
  | .constructor => .path "CastingStrategy::Constructor"
  | .assignProperties => .path "CastingStrategy::AssignProperties"
  | .collection => .path "CastingStrategy::Collection"

def ofFormat : DateTimeFormat → Expression
  | .rfc3339 => .path "DateTimeFormat::Rfc3339"
  | .custom description => .call "DateTimeFormat::Custom" [.owned description]

def ofDiscriminator (discriminator : Discriminator) : Expression :=
  .record "Discriminator"
    [("field", .owned discriminator.field),
      ("arms", .collected <|
        discriminator.arms.map fun arm => .pair (.owned arm.1) (.natural arm.2))]

/-- The expression of a property, given that of its node.  What is usual is left out. -/
def ofProperty (name : String) (node : Expression) (optional : Bool) (direction : Direction) :
    Expression :=
  let plain := Expression.call "Property::new" [.text name, node]
  let marked := if optional then .method plain "optional" (.bool true) else plain
  match direction with
  | .both => marked
  | side => .method marked "direction" (ofDirection side)

mutual

def ofNode : Node → Expression
  | .builtIn kind => .call "Node::builtin" [ofBuiltIn kind]
  | .literal value => .call "Node::literal" [ofLiteral value]
  | .enumeration name => .call "Node::enumeration" [.text name]
  | .dateTime className format => .call "Node::datetime" [.text className, ofFormat format]
  | .list item => .call "Node::list" [ofNode item]
  | .record item => .call "Node::record" [ofNode item]
  | .tuple elements => .tried (.call "Node::tuple" [.vector (ofNodes elements)])
  | .struct kind properties =>
      .tried (.call "Node::structure" [ofStructKind kind, .vector (ofProperties properties)])
  | .union members none => .tried (.call "Node::union" [.vector (ofNodes members)])
  | .union members (some discriminator) =>
      .tried (.call "Node::discriminated_union"
        [.vector (ofNodes members), ofDiscriminator discriminator])
  | .intersection members kind =>
      .tried (.call "Node::intersection_of" [ofStructKind kind, .vector (ofNodes members)])
  | .constrained inner validators =>
      .call "Node::constraint" [ofNode inner, .vector (validators.map ofValidator)]
  | .cast inner target strategy =>
      .tried (.call "Node::custom_casting" [ofNode inner, .text target, ofStrategy strategy])
  | .branded inner tag => .tried (.call "Node::branded" [ofNode inner, .text tag])
  | .named inner name => .call "Node::named" [ofNode inner, .text name]
  | .ref key => .call "Node::lazy_ref" [.text key]

def ofNodes : List Node → List Expression
  | [] => []
  | node :: rest => ofNode node :: ofNodes rest

def ofProperties : List (Property Node) → List Expression
  | [] => []
  | ⟨name, node, optional, direction⟩ :: rest =>
      ofProperty name (ofNode node) optional direction :: ofProperties rest

end

end Expression

end Schemata
