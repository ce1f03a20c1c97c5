import Schemata.Proofs.Codec.Success
import Schemata.Proofs.Node.Pinned

/-!
# Pinned properties in walks

Data that decodes along a struct holds its pinned properties, and every pinned property has the
value of its literal.
-/

namespace Schemata

namespace Walk

variable {α β : Type} {reads : Node → β → α → Prop} {members : Dict β}
  {properties : List (Property Node)} {values : Dict α}

/-- A property that is collected is present or may be missing. -/
theorem Collected.of_mem (collected : Collected reads members properties values)
    {property : Property Node} (among : property ∈ properties) :
    (∃ member value, Dict.get? members property.name = some member ∧
      reads property.node member value ∧ (property.name, value) ∈ values) ∨
        property.optional = true := by
  induction collected with
  | nil => cases among
  | present found read later ih =>
      rcases List.mem_cons.mp among with rfl | there
      · exact Or.inl ⟨_, _, found, read, List.mem_cons_self⟩
      · rcases ih there with ⟨member, value, found, read, kept⟩ | optional
        · exact Or.inl ⟨member, value, found, read, List.mem_cons_of_mem _ kept⟩
        · exact Or.inr optional
  | missing absent optional later ih =>
      rcases List.mem_cons.mp among with rfl | there
      · exact Or.inr optional
      · exact ih there

/-- The names of what is collected are names of properties, in the same order. -/
theorem Collected.names_sublist (collected : Collected reads members properties values) :
    (values.map Prod.fst).Sublist (properties.map Property.name) := by
  induction collected with
  | nil => exact .slnil
  | present found read later ih => exact ih.cons_cons _
  | missing absent optional later ih => exact ih.cons _

end Walk

namespace Codec

open Walk

variable {codec : Codec} {levels : Nat} {wire : Json} {value : Value} {literal : Literal}

theorem nodup_readProperties {properties : List (Property Node)}
    (names : (properties.map Property.name).Nodup) :
    ((readProperties properties).map Property.name).Nodup :=
  (nodup_sortedProperties names).sublist (List.filter_sublist.map _)

/-- Along a literal under constraints and labels, data stands for the literal. -/
theorem isLiteral_of_decodes {node : Node} (pinned : node.unwrapped = .literal literal)
    (decoded : codec.Decodes levels node wire value) :
    codec.isLiteral literal wire = true ∧ value = literal.toValue := by
  induction levels generalizing node with
  | zero => exact absurd decoded not_decodes_zero
  | succ levels ih =>
      cases node with
      | literal =>
          obtain rfl := Node.literal.inj pinned
          exact decodes_literal_iff.mp decoded
      | constrained inner validators =>
          have inside : inner.unwrapped = .literal literal := pinned
          exact ih inside (decodes_constrained_iff.mp decoded).1
      | named inner name =>
          have inside : inner.unwrapped = .literal literal := pinned
          exact ih inside (decodes_named_iff.mp decoded)
      | _ => cases pinned

/-- Along a node with a struct at its root, data is an object that the struct collects its
properties from. -/
theorem collected_of_decodes {node : Node} {kind : StructKind} {properties : List (Property Node)}
    (root : node.struct? = some (kind, properties))
    (decoded : codec.Decodes levels node wire value) :
    ∃ below members entries, wire = .object members ∧ value = kind.value entries ∧
      Collected (codec.Decodes below) members (readProperties properties) entries := by
  induction levels generalizing node with
  | zero => exact absurd decoded not_decodes_zero
  | succ levels ih =>
      cases node with
      | struct =>
          cases root
          obtain ⟨members, entries, data, same, collected⟩ := decodes_struct_iff.mp decoded
          exact ⟨levels, members, entries, data, same, collected⟩
      | constrained inner validators =>
          have inside : inner.struct? = some (kind, properties) := root
          exact ih inside (decodes_constrained_iff.mp decoded).1
      | named inner name =>
          have inside : inner.struct? = some (kind, properties) := root
          exact ih inside (decodes_named_iff.mp decoded)
      | _ => cases root

/-- Data that decodes along a node holds the literal of every property that is pinned and read. -/
theorem tag_of_decodes {node : Node} {field : String} {property : Property Node}
    (pins : node.Pins field property literal) (read : property.direction.isInput = true)
    (decoded : codec.Decodes levels node wire value) :
    ∃ members tag, wire = .object members ∧ Dict.get? members field = some tag ∧
      codec.isLiteral literal tag = true := by
  obtain ⟨⟨kind, properties, root, found⟩, required, pinned⟩ := pins
  obtain ⟨below, members, entries, data, _, collected⟩ := collected_of_decodes root decoded
  have name : property.name = field := by simpa using List.find?_some found
  have among : property ∈ readProperties properties :=
    List.mem_filter.mpr ⟨mem_sortedProperties.mpr (List.mem_of_find?_eq_some found), read⟩
  rcases collected.of_mem among with ⟨tag, value, present, inside, _⟩ | optional
  · rw [name] at present
    exact ⟨members, tag, data, present, (isLiteral_of_decodes pinned inside).1⟩
  · rw [required] at optional
    cases optional

/-- A value that data decodes to holds the value of the literal of every property that is pinned
and read, if no name occurs twice. -/
theorem tag_of_decoded {node : Node} {field : String} {property : Property Node}
    {kind : StructKind} {properties : List (Property Node)}
    (root : node.struct? = some (kind, properties)) (names : (properties.map Property.name).Nodup)
    (pins : node.Pins field property literal) (read : property.direction.isInput = true)
    (decoded : codec.Decodes levels node wire value) :
    ∃ entries, value.properties? = some entries ∧
      Dict.get? entries field = some literal.toValue := by
  obtain ⟨⟨kind', properties', root', found⟩, required, pinned⟩ := pins
  obtain ⟨rfl, rfl⟩ := Prod.mk.inj (Option.some.inj (root.symm.trans root'))
  obtain ⟨below, members, entries, _, rfl, collected⟩ := collected_of_decodes root decoded
  have name : property.name = field := by simpa using List.find?_some found
  have among : property ∈ readProperties properties :=
    List.mem_filter.mpr ⟨mem_sortedProperties.mpr (List.mem_of_find?_eq_some found), read⟩
  refine ⟨entries, by cases kind <;> rfl, ?_⟩
  rcases collected.of_mem among with ⟨tag, value, _, inside, kept⟩ | optional
  · obtain ⟨_, rfl⟩ := isLiteral_of_decodes pinned inside
    rw [name] at kept
    have distinct := (nodup_readProperties names).sublist collected.names_sublist
    exact Dict.get?_of_mem distinct kept
  · rw [required] at optional
    cases optional

/-- A value selects an arm by the JSON form of the field of the discriminator. -/
theorem armOf?_eq_some {members : List Node} {discriminator : Discriminator} {value field : Value}
    {entries : Dict Value} {tag : Json} {arm : Nat} {member : Node}
    (fields : value.properties? = some entries)
    (tagged : Dict.get? entries discriminator.field = some field)
    (form : field.toJson? = some tag) (selected : discriminator.armFor? tag = some arm)
    (present : members[arm]? = some member) : armOf? members discriminator value = some member := by
  simp [armOf?, fields, tagged, form, selected, present]

/-- Along a struct with a single pinned property, data that holds the tag decodes to it. -/
theorem decodes_pinning {field : String} {entries : Dict Json} {tag : Json}
    (found : Dict.get? entries field = some tag) (taken : codec.isLiteral literal tag = true) :
    codec.Decodes (levels + 1 + 1) (Node.pinning field literal) (.object entries)
      (.map [(field, literal.toValue)]) := by
  refine decodes_struct_iff.mpr ⟨entries, [(field, literal.toValue)], rfl, rfl, ?_⟩
  rw [readProperties, sortedProperties_singleton]
  exact .present found (decodes_literal_iff.mpr ⟨taken, rfl⟩) .nil

end Codec

end Schemata
