import Schemata.Node.Build
import Schemata.Proofs.Codec.Faultless
import Schemata.Proofs.Codec.Selection
import Schemata.Proofs.Json.Text

/-!
# Round trips of plain data

Along plain nodes, what data decodes to can be encoded again, and comes out as its JSON form.  A
union does not remember the member that took the data.  Its discriminator selects the same arm
again, or all members but one take scalars only, and whichever member takes a scalar writes its JSON
form.
-/

namespace Schemata

open List (Forall₂)

namespace Node

/-- A built-in other than mixed, a literal or an enum, under constraints, brands and labels. -/
def isScalarLeaf : Node → Bool
  | .builtIn kind => kind != .mixed
  | .literal _ => true
  | .enumeration _ => true
  | .constrained inner _ => inner.isScalarLeaf
  | .branded inner _ => inner.isScalarLeaf
  | .named inner _ => inner.isScalarLeaf
  | _ => false

/-- The root of a node without moments, intersections, casts and references: doubles are finite,
enums are registered, structs have distinct names in both directions, and unions have the
discriminator that is inferred for them, or none and at most one member that is no scalar leaf. -/
def IsPlain (types : TypeRegistry) : Node → Prop
  | .literal value => value.IsFinite
  | .enumeration name => (types.enum? name).isSome = true
  | .struct _ properties =>
      (properties.map Property.name).Nodup ∧ ∀ property ∈ properties, property.direction = .both
  | .union members (some discriminator) => Discriminator.infer? members = some discriminator
  | .union members none => (members.filter fun member => !member.isScalarLeaf).length ≤ 1
  | .dateTime .. | .intersection .. | .cast .. | .ref _ => False
  | _ => True

def Plain (types : TypeRegistry) : Node → Prop :=
  Everywhere (IsPlain types)

end Node

namespace Codec

open Walk

variable {codec : Codec} {levels : Nat} {node : Node} {wire written : Json} {value : Value}

/-! ## Scalar leaves -/

/-- Along a scalar leaf, data decodes to scalars only. -/
theorem isScalar_of_decodes (leaf : node.isScalarLeaf = true)
    (decoded : codec.Decodes levels node wire value) : value.isScalar = true := by
  induction levels generalizing node with
  | zero => exact absurd decoded not_decodes_zero
  | succ levels ih =>
      cases node with
      | builtIn kind =>
          have unmixed : kind ≠ .mixed := by simpa [Node.isScalarLeaf] using leaf
          obtain ⟨written, success⟩ :=
            exists_encodePrimitive? (decodes_builtIn_iff.mp decoded)
          exact isScalar_of_encodePrimitive? unmixed success
      | literal literal =>
          obtain ⟨_, rfl⟩ := decodes_literal_iff.mp decoded
          cases literal <;> rfl
      | enumeration name =>
          obtain ⟨_, _, _, _, _, rfl⟩ := decodes_enumeration_iff.mp decoded
          rfl
      | constrained inner validators =>
          have inside : inner.isScalarLeaf = true := leaf
          exact ih inside (decodes_constrained_iff.mp decoded).1
      | branded inner tag =>
          have inside : inner.isScalarLeaf = true := leaf
          exact ih inside (decodes_branded_iff.mp decoded)
      | named inner name =>
          have inside : inner.isScalarLeaf = true := leaf
          exact ih inside (decodes_named_iff.mp decoded)
      | _ => cases leaf

/-- Along a scalar leaf, scalars only are encoded. -/
theorem isScalar_of_encodes (leaf : node.isScalarLeaf = true)
    (encoded : codec.Encodes levels node value written) : value.isScalar = true := by
  induction levels generalizing node with
  | zero => exact absurd encoded not_encodes_zero
  | succ levels ih =>
      cases node with
      | builtIn kind =>
          have unmixed : kind ≠ .mixed := by simpa [Node.isScalarLeaf] using leaf
          exact isScalar_of_encodePrimitive? unmixed (encodes_builtIn_iff.mp encoded)
      | literal literal =>
          obtain ⟨stands, _⟩ := encodes_literal_iff.mp encoded
          unfold isLiteralValue at stands
          split at stands
          · rfl
          · rfl
          · rfl
          · rfl
          · rfl
          · cases stands
      | enumeration name =>
          obtain ⟨_, _, rfl, _⟩ := encodes_enumeration_iff.mp encoded
          rfl
      | constrained inner validators =>
          have inside : inner.isScalarLeaf = true := leaf
          exact ih inside (encodes_constrained_iff.mp encoded).1
      | branded inner tag =>
          have inside : inner.isScalarLeaf = true := leaf
          exact ih inside (encodes_branded_iff.mp encoded)
      | named inner name =>
          have inside : inner.isScalarLeaf = true := leaf
          exact ih inside (encodes_named_iff.mp encoded)
      | _ => cases leaf

/-- Whichever plain node encodes a scalar, the scalar shows as what it is encoded to. -/
theorem showsAs_of_encodes (plain : node.Plain codec.types) (scalar : value.isScalar = true)
    (encoded : codec.Encodes levels node value written) : value.ShowsAs written := by
  have flat := Value.properties?_of_isScalar scalar
  induction levels generalizing node with
  | zero => exact absurd encoded not_encodes_zero
  | succ levels ih =>
      cases node with
      | builtIn kind =>
          exact Value.showsAs_of_toJson? (toJson?_of_encodePrimitive?
            (encodes_builtIn_iff.mp encoded))
      | literal literal =>
          obtain ⟨stands, rfl⟩ := encodes_literal_iff.mp encoded
          exact showsAs_of_isLiteralValue plain.here stands
      | enumeration name =>
          obtain ⟨case, _, rfl, _, _, rfl⟩ := encodes_enumeration_iff.mp encoded
          exact Value.showsAs_of_toJson? rfl
      | list item =>
          obtain ⟨_, _, rfl, _⟩ := encodes_list_iff.mp encoded
          cases scalar
      | record item =>
          obtain ⟨_, _, entries, _⟩ := encodes_record_iff.mp encoded
          rw [flat] at entries
          cases entries
      | tuple nodes =>
          obtain ⟨_, _, rfl, _⟩ := encodes_tuple_iff.mp encoded
          cases scalar
      | struct kind properties =>
          obtain ⟨_, _, entries, _⟩ := encodes_struct_iff.mp encoded
          rw [flat] at entries
          cases entries
      | union members discriminator =>
          have unselected : discriminator.bind (armOf? members · value) = none := by
            cases discriminator with
            | none => rfl
            | some discriminator => simp [armOf?, flat]
          obtain ⟨before, member, after, rfl, _, inside⟩ :=
            (encodes_unselected_iff unselected).mp encoded
          refine ih (plain.of_mem_children ?_) inside
          exact List.mem_append_right _ List.mem_cons_self
      | constrained inner validators =>
          exact ih (plain.of_mem_children (List.mem_singleton_self _))
            (encodes_constrained_iff.mp encoded).1
      | branded inner tag =>
          exact ih (plain.of_mem_children (List.mem_singleton_self _))
            (encodes_branded_iff.mp encoded)
      | named inner name =>
          exact ih (plain.of_mem_children (List.mem_singleton_self _))
            (encodes_named_iff.mp encoded)
      | dateTime | intersection | cast | ref => exact plain.here.elim

/-! ## Round trips -/

/-- A value is encoded along a node, and shows as what it is encoded to. -/
def RoundTrips (codec : Codec) (levels : Nat) (node : Node) (value : Value) : Prop :=
  ∃ written, codec.Encodes levels node value written ∧ value.ShowsAs written

/-- The node is settled both ways when it is plain. -/
theorem settledBothWays_of_plain (plain : node.Plain codec.types) :
    node.Everywhere (SettledBothWays codec.types) := by
  refine plain.imp fun node here => ?_
  cases node with
  | enumeration name => exact here
  | dateTime | intersection | cast | ref => exact here.elim
  | _ => trivial

/-- What is true of every item carries over to the lists. -/
theorem exists_forall₂ {α β γ : Type} {reads : α → β → Prop} {writes shows : β → γ → Prop}
    {items : List α} {values : List β} (pairwise : Forall₂ reads items values)
    (each : ∀ item value, reads item value →
      ∃ written, writes value written ∧ shows value written) :
    ∃ written, Forall₂ writes values written ∧ Forall₂ shows values written := by
  induction pairwise with
  | nil => exact ⟨[], .nil, .nil⟩
  | cons here _ ih =>
      obtain ⟨first, writes, shows⟩ := each _ _ here
      obtain ⟨others, writes', shows'⟩ := ih
      exact ⟨first :: others, .cons writes writes', .cons shows shows'⟩

/-- The values of a tuple are as many as its elements, and go back along them. -/
theorem exists_forall₂_zip {nodes : List Node} {items : List Json} {values : List Value}
    (lengths : items.length = nodes.length)
    (pairwise : Forall₂ (fun pair value => codec.Decodes levels pair.1 pair.2 value)
      (nodes.zip items) values)
    (each : ∀ node ∈ nodes, ∀ wire value, codec.Decodes levels node wire value →
      codec.RoundTrips levels node value) :
    values.length = nodes.length ∧ ∃ written,
      Forall₂ (fun pair item => codec.Encodes levels pair.1 pair.2 item) (nodes.zip values)
        written ∧ Forall₂ Value.ShowsAs values written := by
  induction nodes generalizing items values with
  | nil =>
      cases pairwise
      exact ⟨rfl, [], .nil, .nil⟩
  | cons node nodes ih =>
      cases items with
      | nil => cases lengths
      | cons item items =>
          rw [List.zip_cons_cons] at pairwise
          cases pairwise with
          | cons here later =>
              obtain ⟨first, encodes, shows⟩ := each node List.mem_cons_self _ _ here
              obtain ⟨length, others, encodes', shows'⟩ := ih (Nat.succ.inj lengths) later
                fun other among => each other (List.mem_cons_of_mem _ among)
              exact ⟨congrArg (· + 1) length, first :: others, .cons encodes encodes',
                .cons shows shows'⟩

/-- What is collected along properties with distinct names is collected again from the result.  The
induction leaves the result whole, which has the same entries as its rest under the names ahead. -/
theorem collected_again {reads : Node → Json → Value → Prop} {writes : Node → Value → Json → Prop}
    {members : Dict Json} {properties : List (Property Node)} {values : Dict Value}
    (collected : Collected reads members properties values)
    (names : (properties.map Property.name).Nodup)
    (each : ∀ property ∈ properties, ∀ member value, reads property.node member value →
      ∃ written, writes property.node value written ∧ value.ShowsAs written)
    (whole : Dict Value)
    (same : ∀ property ∈ properties,
      Dict.get? whole property.name = Dict.get? values property.name) :
    ∃ written, Collected writes whole properties written ∧
      Forall₂ (fun entry member => entry.1 = member.1 ∧ entry.2.ShowsAs member.2)
        values written := by
  induction collected with
  | nil => exact ⟨[], .nil, .nil⟩
  | @present property rest member value values found read later ih =>
      obtain ⟨fresh, names⟩ := List.nodup_cons.mp names
      obtain ⟨here, same⟩ := List.forall_mem_cons.mp same
      obtain ⟨first, writes, shows⟩ := each property List.mem_cons_self _ _ read
      obtain ⟨others, writes', shows'⟩ := ih names
        (fun other among => each other (List.mem_cons_of_mem _ among)) fun other among => by
          rw [same other among, Dict.get?_cons, if_neg]
          intro (clash : property.name = other.name)
          exact fresh (clash ▸ List.mem_map_of_mem among)
      refine ⟨(property.name, first) :: others, .present ?_ writes writes',
        .cons ⟨rfl, shows⟩ shows'⟩
      rw [here, Dict.get?_cons, if_pos rfl]
  | @missing property rest values absent optional later ih =>
      obtain ⟨fresh, names⟩ := List.nodup_cons.mp names
      obtain ⟨here, same⟩ := List.forall_mem_cons.mp same
      obtain ⟨others, writes', shows'⟩ := ih names
        (fun other among => each other (List.mem_cons_of_mem _ among)) same
      refine ⟨others, .missing ?_ optional writes', shows'⟩
      rw [here, Dict.get?_eq_none_iff]
      exact fun among => fresh (later.names_sublist.subset among)

/-! ## Shapes -/

theorem roundTrips_builtIn {kind : BuiltIn}
    (decoded : codec.Decodes (levels + 1) (.builtIn kind) wire value) :
    codec.RoundTrips (levels + 1) (.builtIn kind) value := by
  obtain ⟨written, success⟩ := exists_encodePrimitive? (decodes_builtIn_iff.mp decoded)
  exact ⟨written, encodes_builtIn_iff.mpr success,
    Value.showsAs_of_toJson? (toJson?_of_encodePrimitive? success)⟩

theorem roundTrips_literal {literal : Literal} (finite : literal.IsFinite)
    (decoded : codec.Decodes (levels + 1) (.literal literal) wire value) :
    codec.RoundTrips (levels + 1) (.literal literal) value := by
  obtain ⟨_, rfl⟩ := decodes_literal_iff.mp decoded
  have stands : isLiteralValue literal literal.toValue = true := isLiteralValue_toValue finite
  exact ⟨literal.toJson, encodes_literal_iff.mpr ⟨stands, rfl⟩,
    Value.showsAs_of_toJson? (Literal.toJson?_toValue finite)⟩

theorem roundTrips_enumeration {name : String}
    (decoded : codec.Decodes (levels + 1) (.enumeration name) wire value) :
    codec.RoundTrips (levels + 1) (.enumeration name) value := by
  obtain ⟨case, cases, rfl, registered, known, rfl⟩ := decodes_enumeration_iff.mp decoded
  exact ⟨.string case, encodes_enumeration_iff.mpr ⟨case, cases, rfl, registered, known, rfl⟩,
    Value.showsAs_of_toJson? rfl⟩

section

variable {item : Node} (inside : ∀ wire value, codec.Decodes levels item wire value →
  codec.RoundTrips levels item value)

include inside

theorem roundTrips_list (decoded : codec.Decodes (levels + 1) (.list item) wire value) :
    codec.RoundTrips (levels + 1) (.list item) value := by
  obtain ⟨items, values, rfl, rfl, each⟩ := decodes_list_iff.mp decoded
  obtain ⟨written, encoded, shows⟩ := exists_forall₂ each inside
  exact ⟨.array written, encodes_list_iff.mpr ⟨values, written, rfl, rfl, encoded⟩,
    Value.showsAs_list shows⟩

theorem roundTrips_record (decoded : codec.Decodes (levels + 1) (.record item) wire value) :
    codec.RoundTrips (levels + 1) (.record item) value := by
  obtain ⟨members, entries, rfl, rfl, each⟩ := decodes_record_iff.mp decoded
  have again (member : String × Json) (entry : String × Value)
      (pair : member.1 = entry.1 ∧ codec.Decodes levels item member.2 entry.2) :
      ∃ written : String × Json,
        (entry.1 = written.1 ∧ codec.Encodes levels item entry.2 written.2) ∧
          (entry.1 = written.1 ∧ entry.2.ShowsAs written.2) := by
    obtain ⟨written, encoded, shows⟩ := inside _ _ pair.2
    exact ⟨(entry.1, written), ⟨rfl, encoded⟩, rfl, shows⟩
  obtain ⟨written, encoded, shows⟩ := exists_forall₂ each again
  exact ⟨.object written, encodes_record_iff.mpr ⟨entries, written, rfl, rfl, encoded⟩,
    Value.showsAs_entries (Or.inl rfl) shows⟩

end

theorem roundTrips_tuple {nodes : List Node}
    (inside : ∀ node ∈ nodes, ∀ wire value, codec.Decodes levels node wire value →
      codec.RoundTrips levels node value)
    (decoded : codec.Decodes (levels + 1) (.tuple nodes) wire value) :
    codec.RoundTrips (levels + 1) (.tuple nodes) value := by
  obtain ⟨items, values, rfl, rfl, lengths, each⟩ := decodes_tuple_iff.mp decoded
  obtain ⟨lengths', written, encoded, shows⟩ := exists_forall₂_zip lengths each inside
  exact ⟨.array written, encodes_tuple_iff.mpr ⟨values, written, rfl, rfl, lengths', encoded⟩,
    Value.showsAs_list shows⟩

/-- Where all properties are read and written, all of them are, in the order of their names. -/
theorem readProperties_eq_sorted {properties : List (Property Node)}
    (both : ∀ property ∈ properties, property.direction = .both) :
    readProperties properties = sortedProperties properties := by
  refine List.filter_eq_self.mpr fun property among => ?_
  rw [both property (mem_sortedProperties.mp among)]
  rfl

theorem writtenProperties_eq_sorted {properties : List (Property Node)}
    (both : ∀ property ∈ properties, property.direction = .both) :
    writtenProperties properties = sortedProperties properties := by
  refine List.filter_eq_self.mpr fun property among => ?_
  rw [both property (mem_sortedProperties.mp among)]
  rfl

/-- The value of a struct shows as data in which every entry does. -/
theorem showsAs_kind_value (kind : StructKind) {entries : Dict Value} {members : Dict Json}
    (shown : Forall₂ (fun entry member => entry.1 = member.1 ∧ entry.2.ShowsAs member.2)
      entries members) : (kind.value entries).ShowsAs (.object members) := by
  cases kind with
  | array => exact Value.showsAs_entries (Or.inl rfl) shown
  | object => exact Value.showsAs_entries (Or.inr rfl) shown

theorem properties?_kind_value (kind : StructKind) (entries : Dict Value) :
    (kind.value entries).properties? = some entries := by
  cases kind <;> rfl

theorem roundTrips_struct {kind : StructKind} {properties : List (Property Node)}
    (names : (properties.map Property.name).Nodup)
    (both : ∀ property ∈ properties, property.direction = .both)
    (inside : ∀ property ∈ properties, ∀ wire value, codec.Decodes levels property.node wire value →
      codec.RoundTrips levels property.node value)
    (decoded : codec.Decodes (levels + 1) (.struct kind properties) wire value) :
    codec.RoundTrips (levels + 1) (.struct kind properties) value := by
  obtain ⟨members, entries, rfl, rfl, collected⟩ := decodes_struct_iff.mp decoded
  rw [readProperties_eq_sorted both] at collected
  obtain ⟨written, encoded, shows⟩ := collected_again collected (nodup_sortedProperties names)
    (fun property among => inside property (mem_sortedProperties.mp among)) entries fun _ _ => rfl
  rw [← writtenProperties_eq_sorted both] at encoded
  exact ⟨.object written, encodes_struct_iff.mpr
    ⟨entries, written, properties?_kind_value kind entries, rfl, encoded⟩,
    showsAs_kind_value kind shows⟩

/-! ## Unions -/

/-- A value that a member of a union takes goes back along the union.  If a member ahead of it
encodes the value, one of the two is a scalar leaf, so that the value is a scalar. -/
theorem roundTrips_union {members : List Node} (plain : (Node.union members none).Plain codec.types)
    (each : ∀ member ∈ members, codec.Decodes levels member wire value →
      codec.RoundTrips levels member value)
    (decoded : codec.Decodes (levels + 1) (.union members none) wire value) :
    codec.RoundTrips (levels + 1) (.union members none) value := by
  have few := plain.here
  have plain_member (member : Node) (among : member ∈ members) := plain.of_mem_children among
  obtain ⟨before, member, after, rfl, _, inside⟩ := decodes_union_iff.mp decoded
  have among : member ∈ before ++ member :: after :=
    List.mem_append_right _ List.mem_cons_self
  obtain ⟨written, encoded, shows⟩ := each member among inside
  have tries : (∀ other ∈ before, codec.TurnsDown levels other value) ∨ _ :=
    invalid_or_first (fun other _ => steady_encodeWithin codec levels other value)
      fun other ahead => faultless_encodeWithin
        (settledBothWays_of_plain (plain_member other (List.mem_append_left _ ahead))) value
  rcases tries with all | ⟨ahead, other, between, first, rfl, turned, encoded'⟩
  · exact ⟨written, (encodes_unselected_iff rfl).mpr ⟨before, member, after, rfl, all, encoded⟩,
      shows⟩
  · have scalar : value.isScalar = true := by
      by_cases leaf : member.isScalarLeaf = true
      · exact isScalar_of_decodes leaf inside
      by_cases leaf' : other.isScalarLeaf = true
      · exact isScalar_of_encodes leaf' encoded'
      · simp [Node.IsPlain, leaf, leaf'] at few
        omega
    refine ⟨first, (encodes_unselected_iff rfl).mpr
      ⟨ahead, other, between ++ member :: after, by simp, turned, encoded'⟩, ?_⟩
    exact showsAs_of_encodes (plain_member other (by simp)) scalar encoded'

/-- A struct at the root of a plain node has distinct names and plain properties in both
directions. -/
theorem properties_of_plain {types : TypeRegistry} {kind : StructKind}
    {properties : List (Property Node)} (plain : node.Plain types)
    (root : node.struct? = some (kind, properties)) :
    (properties.map Property.name).Nodup ∧
      ∀ property ∈ properties, property.direction = .both ∧ property.node.Plain types := by
  induction plain with
  | @intro node here inside ih =>
      cases node with
      | struct =>
          cases root
          refine ⟨here.1, fun property among => ⟨here.2 property among, ?_⟩⟩
          exact inside _ (List.mem_map_of_mem among)
      | constrained inner validators => exact ih inner (List.mem_singleton_self _) root
      | named inner name => exact ih inner (List.mem_singleton_self _) root
      | _ => cases root

/-- A literal under constraints and labels is finite when the node is plain. -/
theorem isFinite_of_plain {types : TypeRegistry} {literal : Literal} (plain : node.Plain types)
    (pinned : node.unwrapped = .literal literal) : literal.IsFinite := by
  induction plain with
  | @intro node here inside ih =>
      cases node with
      | literal =>
          obtain rfl := Node.literal.inj pinned
          exact here
      | constrained inner validators => exact ih inner (List.mem_singleton_self _) pinned
      | named inner name => exact ih inner (List.mem_singleton_self _) pinned
      | _ => cases pinned

/-- An arm that data selects is selected again by the value of the data, whose tag is the literal of
the arm. -/
theorem armOf?_of_decodes {members : List Node} {discriminator : Discriminator} {member : Node}
    {tag : Json} {arm : Nat}
    (plain : (Node.union members (some discriminator)).Plain codec.types)
    (selected : discriminator.armFor? tag = some arm) (present : members[arm]? = some member)
    (inside : codec.Decodes levels member wire value) :
    armOf? members discriminator value = some member := by
  have inferred : Discriminator.infer? members = some discriminator := plain.here
  have plain_member := plain.of_mem_children (List.mem_of_getElem? present)
  obtain ⟨key, known⟩ := Discriminator.exists_key_of_armFor? selected
  obtain ⟨member', property, literal, present', pins, rfl⟩ :=
    (Discriminator.get?_arms_iff inferred).mp known
  obtain rfl := Option.some.inj (present.symm.trans present')
  obtain ⟨kind, properties, root, found⟩ := pins.root
  obtain ⟨names, among⟩ := properties_of_plain plain_member root
  obtain ⟨both, plain_property⟩ := among property (List.mem_of_find?_eq_some found)
  have read : property.direction.isInput = true := by
    rw [both]
    rfl
  obtain ⟨entries, fields, tagged⟩ := tag_of_decoded root names pins read inside
  have form := Literal.toJson?_toValue (isFinite_of_plain plain_property pins.pinned)
  have again : discriminator.armFor? literal.toJson = some arm :=
    Discriminator.armFor?_of_key known
  exact armOf?_eq_some fields tagged form again present

/-- What data decodes to along a plain node is encoded along the node, and shows as what it is
encoded to. -/
theorem roundTrips_of_decodes (plain : node.Plain codec.types)
    (decoded : codec.Decodes levels node wire value) : codec.RoundTrips levels node value := by
  induction levels generalizing node wire value with
  | zero => exact absurd decoded not_decodes_zero
  | succ levels ih =>
      have inside (child : Node) (among : child ∈ node.children) (wire : Json) (value : Value)
          (decoded : codec.Decodes levels child wire value) :
          codec.RoundTrips levels child value :=
        ih (plain.of_mem_children among) decoded
      cases node with
      | builtIn kind => exact roundTrips_builtIn decoded
      | literal literal => exact roundTrips_literal plain.here decoded
      | enumeration name => exact roundTrips_enumeration decoded
      | list item => exact roundTrips_list (inside item (List.mem_singleton_self _)) decoded
      | record item => exact roundTrips_record (inside item (List.mem_singleton_self _)) decoded
      | tuple nodes => exact roundTrips_tuple inside decoded
      | struct kind properties =>
          obtain ⟨names, both⟩ := plain.here
          exact roundTrips_struct names both
            (fun property among => inside _ (List.mem_map_of_mem among)) decoded
      | union members discriminator =>
          cases discriminator with
          | none =>
              exact roundTrips_union plain (fun member among => inside member among _ _) decoded
          | some discriminator =>
              obtain ⟨entries, tag, arm, member, rfl, _, selected, present, taken⟩ :=
                decodes_discriminated_iff.mp decoded
              obtain ⟨written, encoded, shows⟩ :=
                inside member (List.mem_of_getElem? present) _ _ taken
              have again : (some discriminator).bind (armOf? members · value) = some member :=
                armOf?_of_decodes plain selected present taken
              exact ⟨written, (encodes_selected_iff again).mpr encoded, shows⟩
      | constrained inner validators =>
          obtain ⟨taken, passes⟩ := decodes_constrained_iff.mp decoded
          obtain ⟨written, encoded, shows⟩ := inside inner (List.mem_singleton_self _) _ _ taken
          exact ⟨written, encodes_constrained_iff.mpr ⟨encoded, passes⟩, shows⟩
      | branded inner tag =>
          obtain ⟨written, encoded, shows⟩ :=
            inside inner (List.mem_singleton_self _) _ _ (decodes_branded_iff.mp decoded)
          exact ⟨written, encodes_branded_iff.mpr encoded, shows⟩
      | named inner name =>
          obtain ⟨written, encoded, shows⟩ :=
            inside inner (List.mem_singleton_self _) _ _ (decodes_named_iff.mp decoded)
          exact ⟨written, encodes_named_iff.mpr encoded, shows⟩
      | dateTime | intersection | cast | ref => exact plain.here.elim

/-- Data that a plain node takes comes back from its value as the JSON form of the value, with any
options. -/
theorem encode_eq_toJson?_of_decode (plain : node.Plain codec.types)
    (decoded : codec.decode node wire = .ok value) :
    ∃ written form, codec.encode node value = .ok written ∧ value.toJson? = some form ∧
      written.isEqual form = true := by
  obtain ⟨written, encoded, form, shows, equal⟩ :=
    roundTrips_of_decodes plain (decode_eq_ok_iff.mp decoded)
  exact ⟨written, form, encode_eq_ok_iff.mpr encoded, shows, equal⟩

/-- Two structs that are told apart by a label. -/
def labelled : List Node :=
  [.pinning "type" (.string "a"), .pinning "type" (.string "b")]

def labels : Discriminator :=
  { field := "type", arms := [("\"a\"", 0), ("\"b\"", 1)] }

theorem plain_pinning (field : String) {literal : Literal} (finite : literal.IsFinite) :
    (Node.pinning field literal).Plain {} := by
  refine .intro ⟨by simp, by simp [Node.required]⟩ fun child inside => ?_
  obtain rfl := List.mem_singleton.mp inside
  exact .leaf finite rfl

/-- Data along a discriminated union comes back. -/
theorem encode_eq_toJson?_of_labelled :
    (Node.union labelled (some labels)).Plain {} ∧
      ∃ value, ({ types := {} } : Codec).decode (.union labelled (some labels))
          (.object [("type", .string "b")]) = .ok value ∧
        ∃ written form,
          ({ types := {} } : Codec).encode (.union labelled (some labels)) value = .ok written ∧
            value.toJson? = some form ∧ written.isEqual form = true := by
  have plain : (Node.union labelled (some labels)).Plain {} := by
    have inferred : Discriminator.infer? labelled = some labels := by decide
    refine .intro inferred fun child inside => ?_
    rcases List.mem_pair.mp inside with rfl | rfl
    · exact plain_pinning "type" trivial
    · exact plain_pinning "type" trivial
  have taken : ({ types := {} } : Codec).Decodes (125 + 1 + 1 + 1) (.union labelled (some labels))
      (.object [("type", .string "b")]) (.map [("type", .string "b")]) :=
    decodes_discriminated_iff.mpr
      ⟨_, .string "b", 1, _, rfl, rfl, by decide, rfl, decodes_pinning rfl rfl⟩
  have decoded : ({ types := {} } : Codec).decode (.union labelled (some labels))
      (.object [("type", .string "b")]) = .ok (.map [("type", .string "b")]) :=
    decode_eq_ok_iff.mpr taken
  exact ⟨plain, _, decoded, encode_eq_toJson?_of_decode plain decoded⟩

/-- A struct that holds a double, or an integer. -/
def holders : List Node :=
  [.struct .array [Node.required "t" (.builtIn .float)], .builtIn .int]

/-- A discriminator that is not inferred: the texts of one integer and of the double equal to it
stand for different members. -/
def foreign : Discriminator :=
  { field := "t", arms := [("1", 0), ("1.0", 1)] }

/-- With a discriminator of its own, a union need not take back what it gives, even if one member
only is no scalar leaf. -/
theorem foreign_discriminator_turnsDown :
    Node.discriminatedUnionOf holders foreign = .ok (.union holders (some foreign)) ∧
      (∀ member ∈ holders, member.Plain {}) ∧
        (holders.filter fun member => !member.isScalarLeaf).length ≤ 1 ∧
          ∃ value, ({ types := {} } : Codec).decode (.union holders (some foreign))
              (.object [("t", .ofInt64 1)]) = .ok value ∧
            ∀ written, ({ types := {} } : Codec).encode (.union holders (some foreign)) value ≠
              .ok written := by
  refine ⟨rfl, ?_, by decide, .map [("t", .float .one)], ?_, ?_⟩
  · intro member among
    rcases List.mem_pair.mp among with rfl | rfl
    · refine .intro ⟨by decide, by decide⟩ fun child inside => ?_
      obtain rfl := List.mem_singleton.mp inside
      exact .leaf trivial rfl
    · exact .leaf trivial rfl
  · refine decode_eq_ok_iff.mpr (decodes_discriminated_iff.mpr
      ⟨_, .ofInt64 1, 0, _, rfl, rfl, by decide, rfl, decodes_struct_iff.mpr
        ⟨_, [("t", .float .one)], rfl, rfl, ?_⟩⟩)
    rw [readProperties, sortedProperties_singleton]
    have one : ({ types := {} } : Codec).primitive? .float (.ofInt64 1) = some (.float .one) :=
      congrArg (some ∘ Value.float) Binary64.ofInt_one
    exact .present rfl (decodes_builtIn_iff.mpr one) .nil
  · intro written encoded
    have finite : Binary64.one.isFinite = true := rfl
    have again : foreign.armFor? (.number (.float .one finite)) = some 1 := by
      refine Discriminator.armFor?_of_key ?_
      have text : (Json.number (.float .one finite)).compact = "1.0" := Binary64.jsonText_one
      rw [text]
      rfl
    have arm : armOf? holders foreign (.map [("t", .float .one)]) = some (.builtIn .int) :=
      armOf?_eq_some rfl rfl (Value.toJson?_float finite) again rfl
    have selected : (some foreign).bind (armOf? holders · (.map [("t", .float .one)])) =
        some (.builtIn .int) := by
      rw [Option.bind_some, arm]
    have encoded : ({ types := {} } : Codec).Encodes (126 + 1 + 1) _ _ written :=
      encode_eq_ok_iff.mp encoded
    have refused := encodes_builtIn_iff.mp ((encodes_selected_iff selected).mp encoded)
    cases refused

end Codec

end Schemata
