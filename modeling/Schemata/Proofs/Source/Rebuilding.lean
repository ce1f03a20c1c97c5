import Schemata.Proofs.Bundle.Accepted
import Schemata.Proofs.Source.Expressions
import Schemata.Proofs.Source.Meaning

/-!
# Rebuilding nodes

The expression of a node that the constructors accept means the node.  Each kind of expression is
worked out from what its parts mean.
-/

namespace Schemata.Source

open Expression

/-- The value of an expression's term. -/
def Means (expression : Expression) (datum : Datum) : Prop :=
  (termOf expression).value = .ok datum

def MeansAll (expressions : List Expression) (data : List Datum) : Prop :=
  values (termsOf expressions) = .ok data

section

variable {expression first second : Expression} {expressions : List Expression}
  {datum other : Datum} {data : List Datum} {name : String}

theorem MeansAll.nil : MeansAll [] [] := rfl

theorem MeansAll.cons (here : Means expression datum) (later : MeansAll expressions data) :
    MeansAll (expression :: expressions) (datum :: data) :=
  values_cons here later

theorem MeansAll.one (here : Means expression datum) : MeansAll [expression] [datum] :=
  .cons here .nil

theorem MeansAll.two (here : Means first datum) (there : Means second other) :
    MeansAll [first, second] [datum, other] :=
  .cons here (.one there)

theorem MeansAll.map {α : Type} {items : List α} {expressionOf : α → Expression}
    {datumOf : α → Datum} (each : ∀ item ∈ items, Means (expressionOf item) (datumOf item)) :
    MeansAll (items.map expressionOf) (items.map datumOf) := by
  induction items with
  | nil => exact .nil
  | cons item rest ih =>
      obtain ⟨here, later⟩ := List.forall_mem_cons.mp each
      exact .cons here (ih later)

theorem means_path (found : constant? name = some datum) : Means (.path name) datum :=
  value_path found

theorem toNat?_natCast (value : Nat) : (Datum.integer value).toNat? = some value := by
  rw [Datum.toNat?, if_neg (by omega), Int.toNat_natCast]

theorem means_text (content : String) : Means (.text content) (.text content) := rfl

theorem means_owned (content : String) : Means (.owned content) (.owned content) := rfl

theorem means_natural (value : Nat) : Means (.natural value) (.integer value) := rfl

theorem means_bool (value : Bool) : Means (.bool value) (.bool value) := by
  cases value <;> rfl

theorem means_integer (value : Int64) : Means (.integer value) (.integer value.toInt) := by
  change (integerTerm value).value = _
  unfold integerTerm
  split
  next least => subst least; rfl
  split
  next greatest => subst greatest; rfl
  rfl

theorem means_float (value : Binary64) : Means (.float value) (.float value) := by
  cases value with
  | nan => rfl
  | infinite negative => cases negative <;> rfl
  | finite => rfl

theorem means_pair (here : Means first datum) (there : Means second other) :
    Means (.pair first second) (.pair datum other) :=
  value_pair here there

theorem means_vector (items : MeansAll expressions data) :
    Means (.vector expressions) (.vector data) :=
  value_vector items

theorem means_collected (items : MeansAll expressions data) :
    Means (.collected expressions) (.collection data) :=
  value_method (value_method (value_array items) rfl rfl) rfl rfl

theorem means_call (arguments : MeansAll expressions data)
    (found : called? name data = some datum) : Means (.call name expressions) datum :=
  value_call arguments found

theorem means_record_one {field : String} (here : Means first datum)
    (found : recorded? name [(field, datum)] = some other) :
    Means (.record name [(field, first)]) other :=
  value_record (fieldValues_cons here rfl) found

theorem means_record_two {field field' : String} {result : Datum} (here : Means first datum)
    (there : Means second other)
    (found : recorded? name [(field, datum), (field', other)] = some result) :
    Means (.record name [(field, first), (field', second)]) result :=
  value_record (fieldValues_cons here (fieldValues_cons there rfl)) found

theorem means_method {argument result : Datum} (receiver : Means first datum)
    (value : Means second argument) (found : applied? datum name [argument] = some result) :
    Means (.method first name second) result :=
  value_method receiver (values_cons value rfl) found

theorem means_tried (inner : Means expression datum) (passes : pass datum = .ok other) :
    Means (.tried expression) other :=
  value_tried inner passes

end

/-- Items that are wrapped one by one are unwrapped one by one. -/
theorem mapM_map_of_some {α β : Type} {wrap : α → β} {unwrap : β → Option α} {items : List α}
    (each : ∀ item, unwrap (wrap item) = some item) :
    (items.map wrap).mapM unwrap = some items := by
  induction items with
  | nil => rfl
  | cons item rest ih => simp [each, ih]

/-! ## Scalars -/

theorem means_literal (value : Literal) : Means (ofLiteral value) (.literal value) := by
  cases value with
  | bool value => exact means_call (.one (means_bool value)) rfl
  | int value =>
      refine means_call (.one (means_integer value)) ?_
      change ((Text.Decimal.toInt64? value.toInt).map _ : Option Datum) = _
      rw [Text.Decimal.toInt64?_toInt]
      rfl
  | float value => exact means_call (.one (means_float value)) rfl
  | string value => exact means_call (.one (means_owned value)) rfl
  | enumCase enumeration case =>
      exact means_record_two (means_owned enumeration) (means_owned case) rfl

theorem means_builtIn (kind : BuiltIn) : Means (ofBuiltIn kind) (.builtIn kind) := by
  cases kind <;> exact means_path rfl

theorem means_structKind (kind : StructKind) : Means (ofStructKind kind) (.structKind kind) := by
  cases kind <;> exact means_path rfl

theorem means_direction (direction : Direction) :
    Means (ofDirection direction) (.direction direction) := by
  cases direction <;> exact means_path rfl

theorem means_strategy (strategy : CastingStrategy) :
    Means (ofStrategy strategy) (.strategy strategy) := by
  cases strategy <;> exact means_path rfl

theorem means_format (format : DateTimeFormat) : Means (ofFormat format) (.format format) := by
  cases format with
  | rfc3339 => exact means_path rfl
  | custom description => exact means_call (.one (means_owned description)) rfl

/-- A pattern is read from its source again. -/
theorem ofSource_source (matcher : Pattern) : Pattern.ofSource matcher.source = .ok matcher := by
  obtain ⟨source, regex, parses⟩ := matcher
  unfold Pattern.ofSource
  split
  next found parses' =>
    obtain rfl : regex = found := Option.some.inj (parses.symm.trans parses')
    rfl
  next absent => cases parses.symm.trans absent

theorem means_validator (validator : Validator) :
    Means (ofValidator validator) (.validator validator) := by
  cases validator with
  | nonEmpty | nonFalsy | email | url | uuid => exact means_path rfl
  | minLength least =>
      refine means_record_one (means_natural least) ?_
      have read : recorded? "Validator::MinLength" [("min", .integer least)] =
          (Datum.integer least).toNat?.map fun least => .validator (.minLength least) := rfl
      rw [read, toNat?_natCast]
      rfl
  | maxLength most =>
      refine means_record_one (means_natural most) ?_
      have read : recorded? "Validator::MaxLength" [("max", .integer most)] =
          (Datum.integer most).toNat?.map fun most => .validator (.maxLength most) := rfl
      rw [read, toNat?_natCast]
      rfl
  | intRange low high =>
      refine means_record_two (means_integer low) (means_integer high) ?_
      change ((Text.Decimal.toInt64? low.toInt).bind fun low =>
        (Text.Decimal.toInt64? high.toInt).bind fun high => _ : Option Datum) = _
      rw [Text.Decimal.toInt64?_toInt, Text.Decimal.toInt64?_toInt]
      rfl
  | floatRange low high => exact means_record_two (means_float low) (means_float high) rfl
  | pattern matcher =>
      have call : Means (.call "Pattern::new" [.text matcher.source])
          (.patternResult (Pattern.ofSource matcher.source)) :=
        means_call (.one (means_text matcher.source)) rfl
      rw [ofSource_source] at call
      exact means_record_one (means_tried call rfl) rfl

/-! ## Parts of nodes -/

theorem means_discriminator {discriminator : Discriminator}
    (ascending : (Dict.keys discriminator.arms).Pairwise (· < ·)) :
    Means (ofDiscriminator discriminator) (.discriminator discriminator) := by
  have arms : MeansAll
      (discriminator.arms.map fun arm => .pair (.owned arm.1) (.natural arm.2))
      (discriminator.arms.map fun arm => .pair (.owned arm.1) (.integer arm.2)) :=
    .map fun arm _ => means_pair (means_owned arm.1) (means_natural arm.2)
  refine means_record_two (means_owned discriminator.field) (means_collected arms) ?_
  have read : (discriminator.arms.map fun arm =>
      Datum.pair (.owned arm.1) (.integer arm.2)).mapM Datum.toArm? = some discriminator.arms := by
    refine mapM_map_of_some fun arm => ?_
    rw [Datum.toArm?, toNat?_natCast]
    rfl
  change ((List.mapM Datum.toArm? _).map _ : Option Datum) = _
  rw [read, Option.map_some, Dict.ofEntries_of_ascending ascending]

theorem means_property {expression : Expression} {node : Node} (name : String)
    (inner : Means expression (.node node)) (optional : Bool) (direction : Direction) :
    Means (ofProperty name expression optional direction)
      (.property ⟨name, node, optional, direction⟩) := by
  have plain : Means (.call "Property::new" [.text name, expression])
      (.property ⟨name, node, false, .both⟩) := means_call (.two (means_text name) inner) rfl
  have marked : Means (if optional then
      .method (.call "Property::new" [.text name, expression]) "optional" (.bool true)
        else .call "Property::new" [.text name, expression])
      (.property ⟨name, node, optional, .both⟩) := by
    cases optional with
    | true => exact means_method plain (means_bool true) rfl
    | false => exact plain
  cases direction with
  | both => exact marked
  | input => exact means_method marked (means_direction .input) rfl
  | output => exact means_method marked (means_direction .output) rfl

theorem ofNodes_eq_map (nodes : List Node) : ofNodes nodes = nodes.map ofNode := by
  induction nodes with
  | nil => rfl
  | cons node rest ih => exact congrArg (ofNode node :: ·) ih

def propertyExpression (property : Property Node) : Expression :=
  ofProperty property.name (ofNode property.node) property.optional property.direction

theorem ofProperties_eq_map (properties : List (Property Node)) :
    ofProperties properties = properties.map propertyExpression := by
  induction properties with
  | nil => rfl
  | cons property rest ih => exact congrArg (propertyExpression property :: ·) ih

/-! ## Nodes -/

open Node

/-- A vector of nodes. -/
theorem means_nodes {nodes : List Node}
    (each : ∀ node ∈ nodes, Means (ofNode node) (.node node)) :
    Means (.vector (ofNodes nodes)) (.vector (nodes.map .node)) := by
  rw [ofNodes_eq_map]
  exact means_vector (.map each)

theorem mapM_toNode? (nodes : List Node) :
    (nodes.map Datum.node).mapM Datum.toNode? = some nodes :=
  mapM_map_of_some fun _ => rfl

/-- What is passed on by the mark behind a constructor that accepts its arguments. -/
theorem means_accepted {expressions : List Expression} {data : List Datum} {name : String}
    {result : Except SyntaxError Node} {node : Node} (arguments : MeansAll expressions data)
    (found : called? name data = some (.nodeResult result)) (accepted : result = .ok node) :
    Means (.tried (.call name expressions)) (.node node) := by
  subst accepted
  exact means_tried (means_call arguments found) rfl

/-- The expression of a node that the constructors accept means the node. -/
theorem means_ofNode {node : Node} (accepted : node.Everywhere IsAccepted) :
    Means (ofNode node) (.node node) := by
  induction node using induction_on_children with
  | step node ih =>
      have here := accepted.here
      have part (child : Node) (member : child ∈ node.children) :
          Means (ofNode child) (.node child) :=
        ih child member (accepted.of_mem_children member)
      cases node with
      | builtIn kind => exact means_call (.one (means_builtIn kind)) rfl
      | literal value => exact means_call (.one (means_literal value)) rfl
      | enumeration name => exact means_call (.one (means_text name)) rfl
      | dateTime className format =>
          exact means_call (.two (means_text className) (means_format format)) rfl
      | list item => exact means_call (.one (part item (List.mem_singleton_self _))) rfl
      | record item => exact means_call (.one (part item (List.mem_singleton_self _))) rfl
      | tuple elements =>
          refine means_accepted (.one (means_nodes part)) ?_ here
          change ((List.mapM Datum.toNode? _).map _ : Option Datum) = _
          rw [mapM_toNode?]
          rfl
      | struct kind properties =>
          have each : MeansAll (ofProperties properties) (properties.map .property) := by
            rw [ofProperties_eq_map]
            refine .map fun property among => ?_
            exact means_property property.name (part property.node (List.mem_map_of_mem among))
              property.optional property.direction
          have read : (properties.map Datum.property).mapM Datum.toProperty? = some properties :=
            mapM_map_of_some fun _ => rfl
          refine means_accepted (.two (means_structKind kind) (means_vector each)) ?_ here
          change ((List.mapM Datum.toProperty? _).map _ : Option Datum) = _
          rw [read]
          rfl
      | union members discriminator =>
          cases discriminator with
          | none =>
              refine means_accepted (.one (means_nodes part)) ?_ here
              change ((List.mapM Datum.toNode? _).map _ : Option Datum) = _
              rw [mapM_toNode?]
              rfl
          | some discriminator =>
              obtain ⟨here, ascending⟩ := here
              refine means_accepted (.two (means_nodes part) (means_discriminator ascending)) ?_
                here
              change ((List.mapM Datum.toNode? _).map _ : Option Datum) = _
              rw [mapM_toNode?]
              rfl
      | intersection members kind =>
          refine means_accepted (.two (means_structKind kind) (means_nodes part)) ?_ here
          change ((List.mapM Datum.toNode? _).map _ : Option Datum) = _
          rw [mapM_toNode?]
          rfl
      | constrained inner validators =>
          have inside := part inner (List.mem_singleton_self _)
          have each : MeansAll (validators.map ofValidator) (validators.map .validator) :=
            .map fun validator _ => means_validator validator
          have read : (validators.map Datum.validator).mapM Datum.toValidator? = some validators :=
            mapM_map_of_some fun _ => rfl
          refine means_call (.two inside (means_vector each)) ?_
          change ((List.mapM Datum.toValidator? _).map _ : Option Datum) = _
          rw [read]
          rfl
      | cast inner target strategy =>
          have inside := part inner (List.mem_singleton_self _)
          exact means_accepted (.cons inside (.two (means_text target) (means_strategy strategy)))
            rfl here
      | branded inner tag =>
          have inside := part inner (List.mem_singleton_self _)
          exact means_accepted (.two inside (means_text tag)) rfl here
      | named inner name =>
          exact means_call (.two (part inner (List.mem_singleton_self _)) (means_text name)) rfl
      | ref key => exact means_call (.one (means_text key)) rfl

/-! ## Names -/

theorem allNamed_map {α : Type} {items : List α} {expressionOf : α → Expression}
    (each : ∀ item ∈ items, Named (expressionOf item)) : AllNamed (items.map expressionOf) := by
  induction items with
  | nil => trivial
  | cons item rest ih =>
      obtain ⟨here, later⟩ := List.forall_mem_cons.mp each
      exact ⟨here, ih later⟩

theorem named_literal (value : Literal) : Named (ofLiteral value) := by
  cases value with
  | bool | int | float | string => exact ⟨isName_ofList (by decide), trivial, trivial⟩
  | enumCase =>
      exact ⟨isName_ofList (by decide), isName_ofList (by decide), trivial,
        isName_ofList (by decide), trivial, trivial⟩

theorem named_builtIn (kind : BuiltIn) : Named (ofBuiltIn kind) := by
  cases kind <;> exact isName_ofList (by decide)

theorem named_structKind (kind : StructKind) : Named (ofStructKind kind) := by
  cases kind <;> exact isName_ofList (by decide)

theorem named_direction (direction : Direction) : Named (ofDirection direction) := by
  cases direction <;> exact isName_ofList (by decide)

theorem named_strategy (strategy : CastingStrategy) : Named (ofStrategy strategy) := by
  cases strategy <;> exact isName_ofList (by decide)

theorem named_format (format : DateTimeFormat) : Named (ofFormat format) := by
  cases format with
  | rfc3339 => exact isName_ofList (by decide)
  | custom => exact ⟨isName_ofList (by decide), trivial, trivial⟩

theorem named_validator (validator : Validator) : Named (ofValidator validator) := by
  cases validator with
  | nonEmpty | nonFalsy | email | url | uuid => exact isName_ofList (by decide)
  | minLength | maxLength =>
      exact ⟨isName_ofList (by decide), isName_ofList (by decide), trivial, trivial⟩
  | intRange | floatRange =>
      exact ⟨isName_ofList (by decide), isName_ofList (by decide), trivial,
        isName_ofList (by decide), trivial, trivial⟩
  | pattern =>
      exact ⟨isName_ofList (by decide), isName_ofList (by decide),
        ⟨isName_ofList (by decide), trivial, trivial⟩, trivial⟩

theorem named_discriminator (discriminator : Discriminator) :
    Named (ofDiscriminator discriminator) := by
  have arms : AllNamed (discriminator.arms.map fun arm => .pair (.owned arm.1) (.natural arm.2)) :=
    allNamed_map fun _ _ => ⟨trivial, trivial⟩
  exact ⟨isName_ofList (by decide), isName_ofList (by decide), trivial,
    isName_ofList (by decide), arms, trivial⟩

theorem named_property {expression : Expression} (name : String) (inner : Named expression)
    (optional : Bool) (direction : Direction) :
    Named (ofProperty name expression optional direction) := by
  have plain : Named (.call "Property::new" [.text name, expression]) :=
    ⟨isName_ofList (by decide), trivial, inner, trivial⟩
  have marked : Named (if optional then
      .method (.call "Property::new" [.text name, expression]) "optional" (.bool true)
        else .call "Property::new" [.text name, expression]) := by
    cases optional with
    | true => exact ⟨plain, isName_ofList (by decide), trivial⟩
    | false => exact plain
  cases direction with
  | both => exact marked
  | input | output => exact ⟨marked, isName_ofList (by decide), named_direction _⟩

/-- What the expression of a node calls constructors, fields and methods are names. -/
theorem named_ofNode (node : Node) : Named (ofNode node) := by
  induction node using induction_on_children with
  | step node ih =>
      have nodes (children : List Node) (each : ∀ child ∈ children, Named (ofNode child)) :
          Named (.vector (ofNodes children)) := by
        rw [ofNodes_eq_map]
        exact allNamed_map each
      cases node with
      | builtIn kind => exact ⟨isName_ofList (by decide), named_builtIn kind, trivial⟩
      | literal value => exact ⟨isName_ofList (by decide), named_literal value, trivial⟩
      | enumeration => exact ⟨isName_ofList (by decide), trivial, trivial⟩
      | dateTime _ format =>
          exact ⟨isName_ofList (by decide), trivial, named_format format, trivial⟩
      | list item | record item =>
          exact ⟨isName_ofList (by decide), ih item (List.mem_singleton_self _), trivial⟩
      | tuple elements => exact ⟨isName_ofList (by decide), nodes elements ih, trivial⟩
      | struct kind properties =>
          refine ⟨isName_ofList (by decide), named_structKind kind, ?_, trivial⟩
          rw [Named, ofProperties_eq_map]
          refine allNamed_map fun property among => ?_
          exact named_property property.name (ih property.node (List.mem_map_of_mem among))
            property.optional property.direction
      | union members discriminator =>
          cases discriminator with
          | none => exact ⟨isName_ofList (by decide), nodes members ih, trivial⟩
          | some discriminator =>
              exact ⟨isName_ofList (by decide), nodes members ih,
                named_discriminator discriminator, trivial⟩
      | intersection members kind =>
          exact ⟨isName_ofList (by decide), named_structKind kind, nodes members ih, trivial⟩
      | constrained inner validators =>
          exact ⟨isName_ofList (by decide), ih inner (List.mem_singleton_self _),
            allNamed_map fun validator _ => named_validator validator, trivial⟩
      | cast inner _ strategy =>
          exact ⟨isName_ofList (by decide), ih inner (List.mem_singleton_self _), trivial,
            named_strategy strategy, trivial⟩
      | branded inner | named inner =>
          exact ⟨isName_ofList (by decide), ih inner (List.mem_singleton_self _), trivial, trivial⟩
      | ref => exact ⟨isName_ofList (by decide), trivial, trivial⟩

end Schemata.Source
