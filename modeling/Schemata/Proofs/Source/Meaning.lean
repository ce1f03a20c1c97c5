import Schemata.Node.Build
import Schemata.Proofs.Source.Terms

/-!
# What terms mean

A term is worked out from its parts upwards: literals stand for themselves, paths for constants, and
calls for the constructors they name.  A constructor that checks its arguments gives a result, and
the mark behind it passes a failure on to the whole term.
-/

namespace Schemata.Source

open Text

/-- Why a term has no value. -/
inductive Fault where
  /-- Nothing goes by such a name, or takes such arguments. -/
  | meaningless
  /-- A constructor turned its arguments down. -/
  | failed (error : SyntaxError)

/-- What a term stands for. -/
inductive Datum where
  | bool (value : Bool)
  /-- A number of a width that its use decides. -/
  | integer (value : Int)
  | float (value : Binary64)
  /-- A borrowed text. -/
  | text (content : String)
  /-- A text of its own. -/
  | owned (content : String)
  | pair (first second : Datum)
  | array (items : List Datum)
  | iterator (items : List Datum)
  /-- A collection of a kind that its use decides. -/
  | collection (items : List Datum)
  | vector (items : List Datum)
  | builtIn (kind : BuiltIn)
  | structKind (kind : StructKind)
  | direction (direction : Direction)
  | strategy (strategy : CastingStrategy)
  | format (format : DateTimeFormat)
  | literal (value : Literal)
  | pattern (pattern : Pattern)
  | validator (validator : Validator)
  | discriminator (discriminator : Discriminator)
  | property (property : Property Node)
  | node (node : Node)
  /-- What a constructor of patterns gives. -/
  | patternResult (result : Except SyntaxError Pattern)
  /-- What a constructor of nodes that checks its arguments gives. -/
  | nodeResult (result : Except SyntaxError Node)

namespace Datum

def toInt64? : Datum → Option Int64
  | .integer value => Decimal.toInt64? value
  | _ => none

def toNat? : Datum → Option Nat
  | .integer value => if value < 0 then none else some value.toNat
  | _ => none

def toNode? : Datum → Option Node
  | .node value => some value
  | _ => none

def toProperty? : Datum → Option (Property Node)
  | .property value => some value
  | _ => none

def toValidator? : Datum → Option Validator
  | .validator value => some value
  | _ => none

def toArm? : Datum → Option (String × Nat)
  | .pair (.owned key) place => place.toNat?.map (key, ·)
  | _ => none

end Datum

def constant? : String → Option Datum
  | "true" => some (.bool true)
  | "false" => some (.bool false)
  | "i64::MIN" => some (.integer Int64.minValue.toInt)
  | "i64::MAX" => some (.integer Int64.maxValue.toInt)
  | "f64::NAN" => some (.float .nan)
  | "f64::INFINITY" => some (.float (.infinite false))
  | "f64::NEG_INFINITY" => some (.float (.infinite true))
  | "BuiltIn::String" => some (.builtIn .string)
  | "BuiltIn::Int" => some (.builtIn .int)
  | "BuiltIn::Bool" => some (.builtIn .bool)
  | "BuiltIn::Null" => some (.builtIn .null)
  | "BuiltIn::Float" => some (.builtIn .float)
  | "BuiltIn::Mixed" => some (.builtIn .mixed)
  | "StructKind::Array" => some (.structKind .array)
  | "StructKind::Object" => some (.structKind .object)
  | "Direction::Input" => some (.direction .input)
  | "Direction::Output" => some (.direction .output)
  | "Direction::Both" => some (.direction .both)
  | "CastingStrategy::Constructor" => some (.strategy .constructor)
  | "CastingStrategy::AssignProperties" => some (.strategy .assignProperties)
  | "CastingStrategy::Collection" => some (.strategy .collection)
  | "DateTimeFormat::Rfc3339" => some (.format .rfc3339)
  | "Validator::NonEmpty" => some (.validator .nonEmpty)
  | "Validator::NonFalsy" => some (.validator .nonFalsy)
  | "Validator::Email" => some (.validator .email)
  | "Validator::Url" => some (.validator .url)
  | "Validator::Uuid" => some (.validator .uuid)
  | _ => none

def called? : String → List Datum → Option Datum
  | "LiteralValue::Bool", [.bool value] => some (.literal (.bool value))
  | "LiteralValue::Int", [value] => value.toInt64?.map fun value => .literal (.int value)
  | "LiteralValue::Float", [.float value] => some (.literal (.float value))
  | "LiteralValue::String", [.owned value] => some (.literal (.string value))
  | "DateTimeFormat::Custom", [.owned description] => some (.format (.custom description))
  | "Pattern::new", [.text source] => some (.patternResult (Pattern.ofSource source))
  | "Property::new", [.text name, .node node] => some (.property ⟨name, node, false, .both⟩)
  | "Node::builtin", [.builtIn kind] => some (.node (.builtIn kind))
  | "Node::literal", [.literal value] => some (.node (.literal value))
  | "Node::enumeration", [.text name] => some (.node (.enumeration name))
  | "Node::datetime", [.text className, .format format] =>
      some (.node (.dateTime className format))
  | "Node::list", [.node item] => some (.node (.list item))
  | "Node::record", [.node item] => some (.node (.record item))
  | "Node::tuple", [.vector items] =>
      (items.mapM Datum.toNode?).map fun elements => .nodeResult (Node.tupleOf elements)
  | "Node::structure", [.structKind kind, .vector items] =>
      (items.mapM Datum.toProperty?).map fun properties =>
        .nodeResult (Node.structOf kind properties)
  | "Node::union", [.vector items] =>
      (items.mapM Datum.toNode?).map fun members => .nodeResult (Node.unionOf members)
  | "Node::discriminated_union", [.vector items, .discriminator discriminator] =>
      (items.mapM Datum.toNode?).map fun members =>
        .nodeResult (Node.discriminatedUnionOf members discriminator)
  | "Node::intersection_of", [.structKind kind, .vector items] =>
      (items.mapM Datum.toNode?).map fun members =>
        .nodeResult (Node.intersectionOfKind kind members)
  | "Node::constraint", [.node inner, .vector items] =>
      (items.mapM Datum.toValidator?).map fun validators => .node (.constrained inner validators)
  | "Node::custom_casting", [.node inner, .text target, .strategy strategy] =>
      some (.nodeResult (Node.castTo inner target strategy))
  | "Node::branded", [.node inner, .text tag] => some (.nodeResult (Node.brandedAs inner tag))
  | "Node::named", [.node inner, .text name] => some (.node (.named inner name))
  | "Node::lazy_ref", [.text key] => some (.node (.ref key))
  | _, _ => none

def recorded? : String → List (String × Datum) → Option Datum
  | "LiteralValue::EnumCase", [("name", .owned enumeration), ("case", .owned case)] =>
      some (.literal (.enumCase enumeration case))
  | "Validator::MinLength", [("min", least)] =>
      least.toNat?.map fun least => .validator (.minLength least)
  | "Validator::MaxLength", [("max", most)] =>
      most.toNat?.map fun most => .validator (.maxLength most)
  | "Validator::IntRange", [("min", low), ("max", high)] => do
      return .validator (.intRange (← low.toInt64?) (← high.toInt64?))
  | "Validator::FloatRange", [("min", .float low), ("max", .float high)] =>
      some (.validator (.floatRange low high))
  | "Validator::Pattern", [("pattern", .pattern matcher)] => some (.validator (.pattern matcher))
  | "Discriminator", [("field", .owned field), ("arms", .collection items)] =>
      (items.mapM Datum.toArm?).map fun arms =>
        .discriminator { field, arms := Dict.ofEntries arms }
  | _, _ => none

def applied? : Datum → String → List Datum → Option Datum
  | .text content, "to_owned", [] => some (.owned content)
  | .array items, "into_iter", [] => some (.iterator items)
  | .iterator items, "collect", [] => some (.collection items)
  | .property property, "optional", [.bool optional] =>
      some (.property { property with optional })
  | .property property, "direction", [.direction direction] =>
      some (.property { property with direction })
  | _, _, _ => none

/-- The value of a result, unless it is a failure. -/
def pass : Datum → Except Fault Datum
  | .patternResult (.ok pattern) => .ok (.pattern pattern)
  | .nodeResult (.ok node) => .ok (.node node)
  | .patternResult (.error error) => .error (.failed error)
  | .nodeResult (.error error) => .error (.failed error)
  | _ => .error .meaningless

def known (datum : Option Datum) : Except Fault Datum :=
  match datum with
  | some datum => .ok datum
  | none => .error .meaningless

mutual

def Term.value : Term → Except Fault Datum
  | .path name => known (constant? name)
  | .integer value => .ok (.integer value)
  | .float value => .ok (.float value)
  | .text content => .ok (.text content)
  | .pair first second => do return .pair (← first.value) (← second.value)
  | .array items => do return .array (← values items)
  | .vector items => do return .vector (← values items)
  | .call function arguments => do known (called? function (← values arguments))
  | .record name fields => do known (recorded? name (← fieldValues fields))
  | .method receiver name arguments => do
      known (applied? (← receiver.value) name (← values arguments))
  | .tried inner => do pass (← inner.value)

def values : List Term → Except Fault (List Datum)
  | [] => .ok []
  | term :: rest => do return (← term.value) :: (← values rest)

def fieldValues : List (String × Term) → Except Fault (List (String × Datum))
  | [] => .ok []
  | (name, term) :: rest => do return (name, ← term.value) :: (← fieldValues rest)

end

/-! ## Values from the values of parts -/

section

variable {term first second : Term} {terms : List Term} {fields : List (String × Term)}
  {name : String} {datum other result : Datum} {data : List Datum}

theorem values_cons (here : term.value = .ok datum) (later : values terms = .ok data) :
    values (term :: terms) = .ok (datum :: data) := by
  change (do return (← term.value) :: (← values terms)) = _
  rw [here, later]
  rfl

theorem fieldValues_cons {given : List (String × Datum)} (here : term.value = .ok datum)
    (later : fieldValues fields = .ok given) :
    fieldValues ((name, term) :: fields) = .ok ((name, datum) :: given) := by
  change (do return (name, ← term.value) :: (← fieldValues fields)) = _
  rw [here, later]
  rfl

theorem value_path (found : constant? name = some datum) :
    (Term.path name).value = .ok datum := by
  change known (constant? name) = _
  rw [found]
  rfl

theorem value_pair (here : first.value = .ok datum) (there : second.value = .ok other) :
    (Term.pair first second).value = .ok (.pair datum other) := by
  change (do return Datum.pair (← first.value) (← second.value)) = _
  rw [here, there]
  rfl

theorem value_array (items : values terms = .ok data) :
    (Term.array terms).value = .ok (.array data) := by
  change (do return Datum.array (← values terms)) = _
  rw [items]
  rfl

theorem value_vector (items : values terms = .ok data) :
    (Term.vector terms).value = .ok (.vector data) := by
  change (do return Datum.vector (← values terms)) = _
  rw [items]
  rfl

theorem value_call (arguments : values terms = .ok data)
    (found : called? name data = some result) : (Term.call name terms).value = .ok result := by
  change (do known (called? name (← values terms))) = _
  rw [arguments]
  change known (called? name data) = _
  rw [found]
  rfl

theorem value_record {given : List (String × Datum)} (parts : fieldValues fields = .ok given)
    (found : recorded? name given = some result) :
    (Term.record name fields).value = .ok result := by
  change (do known (recorded? name (← fieldValues fields))) = _
  rw [parts]
  change known (recorded? name given) = _
  rw [found]
  rfl

theorem value_method (receiver : term.value = .ok datum) (arguments : values terms = .ok data)
    (found : applied? datum name data = some result) :
    (Term.method term name terms).value = .ok result := by
  change (do known (applied? (← term.value) name (← values terms))) = _
  rw [receiver, arguments]
  change known (applied? datum name data) = _
  rw [found]
  rfl

theorem value_tried (inner : term.value = .ok datum) (passes : pass datum = .ok result) :
    (Term.tried term).value = .ok result := by
  change (do pass (← term.value)) = _
  rw [inner]
  exact passes

end

end Schemata.Source
