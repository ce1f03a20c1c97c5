import Schemata.Proofs.Codec.Restored

/-!
# Round trips of intersections

The value of an intersection comes back exactly if every member can write all its entries.  A member
that reads a key in another way than a later one need not be able to write what the later one read,
and a bound on the number of entries sees more of them on the way out.  Where members agree on the
types under their shared names and put no such bound, every value comes back.
-/

namespace Schemata

namespace Node

variable {node : Node} {property : Property Node}

/-- A property of a struct at the root of a node, under constraints and labels and in members of
intersections. -/
inductive HasProperty : Node → Property Node → Prop where
  | struct {kind : StructKind} {properties : List (Property Node)} {property : Property Node}
      (among : property ∈ properties) : HasProperty (.struct kind properties) property
  | intersection {kind : StructKind} {members : List Node} {member : Node}
      {property : Property Node} (among : member ∈ members)
      (inside : HasProperty member property) : HasProperty (.intersection members kind) property
  | constrained {inner : Node} {validators : List Validator} {property : Property Node}
      (inside : HasProperty inner property) : HasProperty (.constrained inner validators) property
  | named {inner : Node} {name : String} {property : Property Node}
      (inside : HasProperty inner property) : HasProperty (.named inner name) property

/-- The number of entries is bounded from above at the root of a node. -/
inductive IsBounded : Node → Prop where
  | here {inner : Node} {validators : List Validator} {most : Nat}
      (among : Validator.maxLength most ∈ validators) : IsBounded (.constrained inner validators)
  | constrained {inner : Node} {validators : List Validator} (inside : IsBounded inner) :
      IsBounded (.constrained inner validators)
  | intersection {kind : StructKind} {members : List Node} {member : Node}
      (among : member ∈ members) (inside : IsBounded member) :
      IsBounded (.intersection members kind)
  | named {inner : Node} {name : String} (inside : IsBounded inner) :
      IsBounded (.named inner name)

/-- The members of an intersection have one type under each name, and put no upper bound on the
number of entries. -/
def IsAgreeing : Node → Prop
  | .intersection members kind =>
      (∀ property other, (Node.intersection members kind).HasProperty property →
        (Node.intersection members kind).HasProperty other → property.name = other.name →
          property.node = other.node) ∧
        ∀ member ∈ members, ¬ member.IsBounded
  | _ => True

def Agreeing : Node → Prop :=
  Everywhere IsAgreeing

/-- What holds everywhere in a node holds everywhere in the types of the properties at its root. -/
theorem HasProperty.everywhere {holds : Node → Prop} (has : node.HasProperty property)
    (everywhere : node.Everywhere holds) : property.node.Everywhere holds := by
  induction has with
  | struct among => exact everywhere.of_mem_children (List.mem_map_of_mem among)
  | intersection among _ ih => exact ih (everywhere.of_mem_children among)
  | constrained _ ih | named _ ih =>
      exact ih (everywhere.of_mem_children (List.mem_singleton_self _))

end Node

/-- A condition on the number of entries that is no upper bound holds of more entries, too. -/
theorem Validator.check_of_longer {validator : Validator} {value other : Value}
    {entries more : Dict Value} (free : ∀ most, validator ≠ .maxLength most)
    (shown : value.properties? = some entries) (shown' : other.properties? = some more)
    (longer : entries.length ≤ more.length) (passes : validator.check value = true) :
    validator.check other = true := by
  have length : value.length? = some entries.length := by
    cases value with
    | map | object =>
        cases shown
        rfl
    | _ => cases shown
  have length' : other.length? = some more.length := by
    cases other with
    | map | object =>
        cases shown'
        rfl
    | _ => cases shown'
  cases validator with
  | maxLength most => exact absurd rfl (free most)
  | nonEmpty | minLength =>
      simp only [check, lengthMeets, length, length', decide_eq_true_eq] at passes ⊢
      omega
  | nonFalsy =>
      cases value with
      | map | object =>
          cases other with
          | map | object =>
              simp only [check, lengthMeets, length, length', decide_eq_true_eq] at passes ⊢
              omega
          | _ => cases shown'
      | _ => cases shown
  | intRange | floatRange | email | url | uuid | pattern =>
      cases other with
      | map | object => rfl
      | _ => cases shown'

namespace Codec

open List (Forall₂)
open Walk

variable {codec : Codec} {levels : Nat} {node : Node} {wire written : Json} {value : Value}

/-! ## Writing all entries along a member -/

/-- A node with a struct at its root can write some entries: every one that it has a property for is
encoded along the property, and all validators at the root pass. -/
def Writes (codec : Codec) (entries : Dict Value) : (levels : Nat) → Node → Prop
  | levels + 1, .struct _ properties =>
      ∀ property ∈ properties, ∀ value, Dict.get? entries property.name = some value →
        ∃ written, codec.Encodes levels property.node value written
  | levels + 1, .intersection members _ =>
      ∀ member ∈ members, codec.Writes entries levels member
  | levels + 1, .constrained inner validators =>
      codec.Writes entries levels inner ∧ validators.all (·.check (.map entries)) = true
  | levels + 1, .named inner _ => codec.Writes entries levels inner
  | _, _ => False

theorem check_map_of_properties? {entries : Dict Value}
    (shown : value.properties? = some entries) (validators : List Validator) :
    validators.all (·.check (.map entries)) = validators.all (·.check value) := by
  cases value with
  | map => cases shown; rfl
  | object =>
      cases shown
      simp only [Validator.check_object]
  | _ => cases shown

/-- Properties are collected again if each one that is present can be, and none that is required is
missing. -/
theorem exists_collected {α β : Type} {writes : Node → β → α → Prop} {entries : Dict β}
    {properties : List (Property Node)}
    (each : ∀ property ∈ properties, ∀ value, Dict.get? entries property.name = some value →
      ∃ written, writes property.node value written)
    (optional : ∀ property ∈ properties, Dict.get? entries property.name = none →
      property.optional = true) : ∃ fields, Collected writes entries properties fields := by
  induction properties with
  | nil => exact ⟨[], .nil⟩
  | cons property rest ih =>
      obtain ⟨here, each⟩ := List.forall_mem_cons.mp each
      obtain ⟨optional, others⟩ := List.forall_mem_cons.mp optional
      obtain ⟨fields, later⟩ := ih each others
      cases found : Dict.get? entries property.name with
      | none => exact ⟨fields, .missing found (optional found) later⟩
      | some value =>
          obtain ⟨written, wrote⟩ := here value found
          exact ⟨(property.name, written) :: fields, .present found wrote later⟩

theorem exists_gathered {α : Type} {gives : Node → Dict α → Prop} {members : List Node}
    (each : ∀ member ∈ members, ∃ entries, gives member entries) (merged : Dict α) :
    ∃ total, Gathered gives merged members total := by
  induction members generalizing merged with
  | nil => exact ⟨merged, .nil⟩
  | cons member rest ih =>
      obtain ⟨⟨entries, given⟩, later⟩ := List.forall_mem_cons.mp each
      obtain ⟨total, gathered⟩ := ih later (Dict.merge merged entries)
      exact ⟨total, .cons given gathered⟩

theorem Gathered.exists_of_mem {α : Type} {gives : Node → Dict α → Prop} {merged total : Dict α}
    {members : List Node} (gathered : Gathered gives merged members total) {member : Node}
    (among : member ∈ members) : ∃ entries, gives member entries := by
  induction gathered with
  | nil => cases among
  | cons given _ ih =>
      rcases List.mem_cons.mp among with rfl | behind
      · exact ⟨_, given⟩
      · exact ih behind

/-- The entries that a member gives have their keys in the result. -/
theorem Gathered.exists_covered_of_mem {α : Type} {gives : Node → Dict α → Prop}
    {merged total : Dict α} {members : List Node}
    (distinct : ∀ member ∈ members, ∀ entries, gives member entries →
      (entries.map Prod.fst).Nodup)
    (gathered : Gathered gives merged members total) {member : Node} (among : member ∈ members) :
    ∃ entries, gives member entries ∧
      ∀ key, Dict.get? entries key ≠ none → Dict.get? total key ≠ none := by
  induction gathered with
  | nil => cases among
  | cons given later ih =>
      obtain ⟨here, others⟩ := List.forall_mem_cons.mp distinct
      rcases List.mem_cons.mp among with rfl | behind
      · refine ⟨_, given, fun key present => later.get?_ne_none others ?_⟩
        rw [Dict.get?_merge (here _ given)]
        simp [present]
      · exact ih others behind

theorem nodup_of_takesEntries {members : List Node} {fields : Dict Json}
    (combined : ∀ member ∈ members, member.Combined ∧ member.structKind?.isSome = true) :
    ∀ member ∈ members, ∀ entries, codec.TakesEntries levels (.object fields) member entries →
      (entries.map Prod.fst).Nodup := by
  intro member among entries taken
  obtain ⟨here, root⟩ := combined member among
  obtain ⟨_, _, _, ascending, _⟩ := exists_value_of_takesEntries here root taken
  exact Dict.nodup_of_ascending ascending

/-- A struct that lacks no required property encodes exactly the entries that its properties do. -/
theorem exists_encodes_struct_iff {kind : StructKind} {properties : List (Property Node)}
    {whole : Dict Value} (combined : Node.IsCombined (.struct kind properties))
    (shown : value.properties? = some whole)
    (optional : ∀ property ∈ properties, Dict.get? whole property.name = none →
      property.optional = true) :
    (∃ written, codec.Encodes (levels + 1) (.struct kind properties) value written) ↔
      ∀ property ∈ properties, ∀ entry, Dict.get? whole property.name = some entry →
        ∃ written, codec.Encodes levels property.node entry written := by
  obtain ⟨names, both⟩ := combined
  simp only [encodes_struct_iff, shown, Option.some.injEq, writtenProperties_eq_sorted both]
  constructor
  · rintro ⟨_, _, parts, rfl, rfl, wrote⟩ property among entry found
    obtain ⟨form, there⟩ := Option.ne_none_iff_exists'.mp
      (mt (wrote.get?_eq_none (List.mem_map_of_mem (mem_sortedProperties.mpr among)))
        (by simp [found]))
    obtain ⟨other, among', name, entry', found', encoded⟩ := wrote.exists_of_get?_eq_some there
    obtain rfl := List.inj_on_of_nodup_map names (mem_sortedProperties.mp among') among name
    obtain rfl := Option.some.inj (found.symm.trans found')
    exact ⟨form, encoded⟩
  · intro writes
    obtain ⟨parts, wrote⟩ := exists_collected
      (fun property among => writes property (mem_sortedProperties.mp among))
      fun property among => optional property (mem_sortedProperties.mp among)
    exact ⟨.object parts, whole, parts, rfl, rfl, wrote⟩

/-- An intersection encodes exactly the entries that all its members encode. -/
theorem exists_encodes_intersection_iff {members : List Node} {kind : StructKind}
    {whole : Dict Value}
    (combined : ∀ member ∈ members, member.Combined ∧ member.structKind?.isSome = true)
    (shown : value.properties? = some whole) :
    (∃ written, codec.Encodes (levels + 1) (.intersection members kind) value written) ↔
      ∀ member ∈ members, ∃ written, codec.Encodes levels member (kind.value whole) written := by
  simp only [encodes_intersection_iff]
  constructor
  · rintro ⟨_, _, parts, shown', rfl, wrote⟩ member among
    rw [entriesOf_of_properties? shown] at shown'
    cases shown'
    obtain ⟨fields, encoded⟩ := wrote.exists_of_mem among
    exact ⟨.object fields, encoded⟩
  · intro each
    have gives : ∀ member ∈ members, ∃ fields,
        codec.Encodes levels member (kind.value whole) (.object fields) := by
      intro member among
      obtain ⟨written, encoded⟩ := each member among
      obtain ⟨here, root⟩ := combined member among
      obtain ⟨fields, rfl, _⟩ := exists_fields_of_encodes here root encoded
      exact ⟨fields, encoded⟩
    obtain ⟨parts, wrote⟩ := exists_gathered gives []
    refine ⟨.object parts, whole, parts, ?_, rfl, wrote⟩
    rw [entriesOf_of_properties? shown]
    rfl

/-- Behind data that a node takes, the node encodes exactly the entries that it can write, if the
entries that it takes are among their keys. -/
theorem exists_encodes_iff_writes {taken : Value} {fields : Dict Json} {own whole : Dict Value}
    (combined : node.Combined) (root : node.structKind?.isSome = true)
    (decoded : codec.Decodes levels node (.object fields) taken)
    (known : taken.properties? = some own) (shown : value.properties? = some whole)
    (covers : ∀ key, Dict.get? own key ≠ none → Dict.get? whole key ≠ none) :
    (∃ written, codec.Encodes levels node value written) ↔ codec.Writes whole levels node := by
  induction levels generalizing node taken own value with
  | zero => exact absurd decoded not_decodes_zero
  | succ levels ih =>
      have inside {child : Node} (among : child ∈ node.children) := combined.of_mem_children among
      cases node with
      | struct kind properties =>
          obtain ⟨_, _, same, rfl, read⟩ := decodes_struct_iff.mp decoded
          cases same
          rw [properties?_kind_value] at known
          cases known
          rw [readProperties_eq_sorted combined.here.2] at read
          refine exists_encodes_struct_iff combined.here shown fun property among absent => ?_
          rcases read.of_mem (mem_sortedProperties.mpr among) with
            ⟨_, entry, _, _, kept⟩ | optional
          · refine absurd absent (covers property.name fun missing => ?_)
            exact Dict.get?_eq_none_iff.mp missing (List.mem_map_of_mem (f := Prod.fst) kept)
          · exact optional
      | intersection members kind =>
          have each (member : Node) (among : member ∈ members) :=
            And.intro (inside among) (combined.here member among)
          obtain ⟨_, _, same, rfl, took⟩ := decodes_intersection_iff.mp decoded
          cases same
          rw [properties?_kind_value] at known
          cases known
          rw [exists_encodes_intersection_iff each shown, Writes]
          refine forall₂_congr fun member among => ?_
          obtain ⟨here, root⟩ := each member among
          obtain ⟨own, taken, covered⟩ :=
            took.exists_covered_of_mem (nodup_of_takesEntries each) among
          obtain ⟨_, decoded, known, _, _⟩ := exists_value_of_takesEntries here root taken
          exact ih here root decoded known (properties?_kind_value kind whole)
            fun key present => covers key (covered key present)
      | constrained inner validators =>
          have passing := check_map_of_properties? shown validators
          simp only [encodes_constrained_iff, Writes, passing, exists_and_right]
          rw [ih (inside (List.mem_singleton_self _)) root (decodes_constrained_iff.mp decoded).1
            known shown covers]
      | named inner name =>
          simp only [encodes_named_iff, Writes]
          exact ih (inside (List.mem_singleton_self _)) root (decodes_named_iff.mp decoded) known
            shown covers
      | cast => exact combined.here.elim
      | _ => cases root

/-! ## Members that agree -/

/-- An entry that a node takes is decoded along a property at its root. -/
theorem exists_property_of_decodes {fields : Dict Json} {own : Dict Value} {key : String}
    {entry : Value} (combined : node.Combined) (root : node.structKind?.isSome = true)
    (decoded : codec.Decodes levels node (.object fields) value)
    (known : value.properties? = some own) (found : Dict.get? own key = some entry) :
    ∃ property member, node.HasProperty property ∧ property.name = key ∧
      Dict.get? fields key = some member ∧ codec.Decodes levels property.node member entry := by
  induction levels generalizing node value own with
  | zero => exact absurd decoded not_decodes_zero
  | succ levels ih =>
      have inside {child : Node} (among : child ∈ node.children) := combined.of_mem_children among
      have deeper {property : Property Node} (has : node.HasProperty property) {member : Json}
          {entry : Value} (decoded : codec.Decodes levels property.node member entry) :
          codec.Decodes (levels + 1) property.node member entry :=
        (Wider.refl codec).decodes (has.everywhere combined.dispatched) levels.le_succ decoded
      cases node with
      | struct kind properties =>
          obtain ⟨names, both⟩ := combined.here
          obtain ⟨_, _, same, rfl, read⟩ := decodes_struct_iff.mp decoded
          cases same
          rw [properties?_kind_value] at known
          cases known
          rw [readProperties_eq_sorted both] at read
          obtain ⟨property, among, rfl, member, here, taken⟩ := read.exists_of_get?_eq_some found
          have has : (Node.struct kind properties).HasProperty property :=
            .struct (mem_sortedProperties.mp among)
          exact ⟨property, member, has, rfl, here, deeper has taken⟩
      | intersection members kind =>
          obtain ⟨_, _, same, rfl, took⟩ := decodes_intersection_iff.mp decoded
          cases same
          rw [properties?_kind_value] at known
          cases known
          have each (member : Node) (among : member ∈ members) :=
            And.intro (inside among) (combined.here member among)
          rcases took.exists_of_get?_eq_some (nodup_of_takesEntries each) found with
            nothing | ⟨member, among, entries, given, found⟩
          · cases nothing
          · obtain ⟨here, root⟩ := each member among
            obtain ⟨_, decoded, known, _, _⟩ := exists_value_of_takesEntries here root given
            obtain ⟨property, data, has, name, present, taken⟩ := ih here root decoded known found
            have has : (Node.intersection members kind).HasProperty property :=
              .intersection among has
            exact ⟨property, data, has, name, present, deeper has taken⟩
      | constrained inner validators =>
          obtain ⟨property, data, has, name, present, taken⟩ :=
            ih (inside (List.mem_singleton_self _)) root (decodes_constrained_iff.mp decoded).1
              known found
          exact ⟨property, data, .constrained has, name, present, deeper (.constrained has) taken⟩
      | named inner name =>
          obtain ⟨property, data, has, name, present, taken⟩ :=
            ih (inside (List.mem_singleton_self _)) root (decodes_named_iff.mp decoded) known found
          exact ⟨property, data, .named has, name, present, deeper (.named has) taken⟩
      | cast => exact combined.here.elim
      | _ => cases root

theorem decodes_unique {other : Value} (decoded : codec.Decodes levels node wire value)
    (decoded' : codec.Decodes levels node wire other) : value = other :=
  Except.ok.inj (decoded.symm.trans decoded')

/-- Where members agree, no entry that a member takes is replaced by another one. -/
theorem get?_gathered_of_agreeing {members : List Node} {kind : StructKind} {fields : Dict Json}
    {own total : Dict Value} {member : Node} (combined : (Node.intersection members kind).Combined)
    (agreeing : (Node.intersection members kind).IsAgreeing)
    (took : Gathered (codec.TakesEntries levels (.object fields)) [] members total)
    (among : member ∈ members) (given : codec.TakesEntries levels (.object fields) member own)
    (covered : ∀ key, Dict.get? own key ≠ none → Dict.get? total key ≠ none) {key : String}
    {entry : Value} (found : Dict.get? own key = some entry) :
    Dict.get? total key = some entry := by
  have each (member : Node) (among : member ∈ members) :=
    And.intro (combined.of_mem_children among) (combined.here member among)
  obtain ⟨final, kept⟩ := Option.ne_none_iff_exists'.mp (covered key (by simp [found]))
  rcases took.exists_of_get?_eq_some (nodup_of_takesEntries each) kept with
    nothing | ⟨winner, among', entries, given', found'⟩
  · cases nothing
  have property_of {member : Node} (among : member ∈ members) {own : Dict Value} {entry : Value}
      (given : codec.TakesEntries levels (.object fields) member own)
      (found : Dict.get? own key = some entry) :
      ∃ property data, (Node.intersection members kind).HasProperty property ∧
        property.name = key ∧ Dict.get? fields key = some data ∧
          codec.Decodes levels property.node data entry := by
    obtain ⟨here, root⟩ := each member among
    obtain ⟨_, decoded, known, _, _⟩ := exists_value_of_takesEntries here root given
    obtain ⟨property, data, has, name, present, taken⟩ :=
      exists_property_of_decodes here root decoded known found
    exact ⟨property, data, .intersection among has, name, present, taken⟩
  obtain ⟨property, data, has, name, present, taken⟩ := property_of among given found
  obtain ⟨property', data', has', name', present', taken'⟩ := property_of among' given' found'
  obtain rfl := Option.some.inj (present.symm.trans present')
  rw [agreeing.1 property property' has has' (name.trans name'.symm)] at taken
  rw [kept, decodes_unique taken taken']

/-- The values of all combined nodes that agree come back. -/
def Returning (codec : Codec) (levels : Nat) : Prop :=
  ∀ node, node.Combined → node.Agreeing → ∀ wire value, codec.Decodes levels node wire value →
    codec.RoundTrips levels node value

/-- Nodes with structs at their roots write any entries that extend those which they took. -/
def Extending (codec : Codec) (levels : Nat) : Prop :=
  ∀ node, node.Combined → node.Agreeing → node.structKind?.isSome = true → ¬ node.IsBounded →
    ∀ fields taken own whole, codec.Decodes levels node (.object fields) taken →
      taken.properties? = some own →
        (∀ key entry, Dict.get? own key = some entry → Dict.get? whole key = some entry) →
          (∀ key, Dict.get? whole key ≠ none → Dict.get? fields key ≠ none) →
            codec.Writes whole levels node

theorem extending_succ (returning : codec.Returning levels) (extending : codec.Extending levels) :
    codec.Extending (levels + 1) := by
  intro node combined agreeing root free fields taken own whole decoded known extends' within
  have inside {child : Node} (among : child ∈ node.children) :=
    And.intro (combined.of_mem_children among) (agreeing.of_mem_children among)
  cases node with
  | struct kind properties =>
      obtain ⟨names, both⟩ := combined.here
      obtain ⟨_, _, same, rfl, read⟩ := decodes_struct_iff.mp decoded
      cases same
      rw [properties?_kind_value] at known
      cases known
      rw [readProperties_eq_sorted both] at read
      intro property among entry found
      have present := within property.name (by simp [found])
      obtain ⟨entry', found'⟩ := Option.ne_none_iff_exists'.mp
        (mt (read.get?_eq_none (List.mem_map_of_mem (mem_sortedProperties.mpr among))) present)
      obtain rfl := Option.some.inj (found.symm.trans (extends' _ _ found'))
      obtain ⟨other, among', name, data, _, decoded⟩ := read.exists_of_get?_eq_some found'
      obtain rfl := List.inj_on_of_nodup_map names (mem_sortedProperties.mp among') among name
      obtain ⟨here, agrees⟩ := inside (List.mem_map_of_mem among)
      obtain ⟨written, encoded, _⟩ := returning _ here agrees _ _ decoded
      exact ⟨written, encoded⟩
  | intersection members kind =>
      obtain ⟨_, _, same, rfl, took⟩ := decodes_intersection_iff.mp decoded
      cases same
      rw [properties?_kind_value] at known
      cases known
      intro member among
      have each (member : Node) (among : member ∈ members) :=
        And.intro (inside among).1 (combined.here member among)
      obtain ⟨own, given, covered⟩ := took.exists_covered_of_mem (nodup_of_takesEntries each) among
      obtain ⟨here, root⟩ := each member among
      obtain ⟨_, decoded, known, _, _⟩ := exists_value_of_takesEntries here root given
      refine extending member here (inside among).2 root
        (fun bounded => free (.intersection among bounded)) fields _ own whole decoded known
        (fun key entry found => extends' key entry ?_) within
      exact get?_gathered_of_agreeing combined agreeing.here took among given covered found
  | constrained inner validators =>
      obtain ⟨here, agrees⟩ := inside (List.mem_singleton_self _)
      obtain ⟨decoded, passes⟩ := decodes_constrained_iff.mp decoded
      refine ⟨extending inner here agrees root (fun bounded => free (.constrained bounded)) fields
        taken own whole decoded known extends' within, ?_⟩
      obtain ⟨_, _, same, known', ascending, _⟩ := exists_entries_of_decodes here root decoded
      cases same
      rw [known] at known'
      cases known'
      have longer : own.length ≤ whole.length :=
        Dict.length_le_of_subset (Dict.nodup_of_ascending ascending) fun key present => by
          obtain ⟨entry, found⟩ := Option.ne_none_iff_exists'.mp present
          simp [extends' key entry found]
      refine List.all_eq_true.mpr fun validator among => ?_
      refine Validator.check_of_longer (fun most same => ?_) known rfl longer
        (List.all_eq_true.mp passes validator among)
      exact free (.here (same ▸ among))
  | named inner name =>
      obtain ⟨here, agrees⟩ := inside (List.mem_singleton_self _)
      exact extending inner here agrees root (fun bounded => free (.named bounded)) fields taken own
        whole (decodes_named_iff.mp decoded) known extends' within
  | cast => exact combined.here.elim
  | _ => cases root

theorem returning_succ (returning : codec.Returning levels)
    (extending : codec.Extending (levels + 1)) : codec.Returning (levels + 1) := by
  intro node combined agreeing wire value decoded
  have inside (child : Node) (among : child ∈ node.children) (wire : Json) (value : Value) :
      codec.Decodes levels child wire value → codec.RoundTrips levels child value :=
    returning child (combined.of_mem_children among) (agreeing.of_mem_children among) wire value
  have faithful := (faithful_and_restoring codec (levels + 1)).1
  -- Structs and intersections write at least the entries that they took.
  have merged (root : node.structKind?.isSome = true) (free : ¬ node.IsBounded) :
      codec.RoundTrips (levels + 1) node value := by
    obtain ⟨fields, entries, rfl, known, _, within⟩ :=
      exists_entries_of_decodes combined root decoded
    have writes : codec.Writes entries (levels + 1) node :=
      extending node combined agreeing root free fields value entries entries decoded known
        (fun _ _ found => found) within
    obtain ⟨written, encoded⟩ :=
      (exists_encodes_iff_writes combined root decoded known known fun _ present => present).mpr
        writes
    exact ⟨written, encoded,
      Value.showsAs_of_toJson? (faithful node combined _ _ _ decoded encoded)⟩
  cases node with
  | builtIn kind => exact roundTrips_builtIn decoded
  | literal literal =>
      exact roundTrips_literal (isFinite_of_isLiteral (decodes_literal_iff.mp decoded).1) decoded
  | enumeration name => exact roundTrips_enumeration decoded
  | list item => exact roundTrips_list (inside item (List.mem_singleton_self _)) decoded
  | record item => exact roundTrips_record (inside item (List.mem_singleton_self _)) decoded
  | tuple nodes => exact roundTrips_tuple inside decoded
  | struct kind properties => exact merged rfl fun bounded => nomatch bounded
  | intersection members kind =>
      refine merged rfl fun bounded => ?_
      cases bounded with
      | intersection among bounded => exact agreeing.here.2 _ among bounded
  | constrained inner validators =>
      obtain ⟨taken, passes⟩ := decodes_constrained_iff.mp decoded
      obtain ⟨written, encoded, shows⟩ := inside inner (List.mem_singleton_self _) _ _ taken
      exact ⟨written, encodes_constrained_iff.mpr ⟨encoded, passes⟩, shows⟩
  | branded inner tag =>
      obtain ⟨written, encoded, shows⟩ :=
        inside inner (List.mem_singleton_self _) _ _ (decodes_branded_iff.mp decoded)
      exact ⟨written, encodes_branded_iff.mpr encoded, shows⟩
  | named inner name =>
      obtain ⟨written, encoded, shows⟩ :=
        inside inner (List.mem_singleton_self _) _ _ (decodes_named_iff.mp decoded)
      exact ⟨written, encodes_named_iff.mpr encoded, shows⟩
  | dateTime | union | cast | ref => exact combined.here.elim

theorem returning_and_extending (codec : Codec) (levels : Nat) :
    codec.Returning levels ∧ codec.Extending levels := by
  induction levels with
  | zero =>
      constructor
      · exact fun node _ _ wire value decoded => absurd decoded not_decodes_zero
      · exact fun node _ _ _ _ fields taken own whole decoded => absurd decoded not_decodes_zero
  | succ levels ih =>
      have extending := extending_succ ih.1 ih.2
      exact ⟨returning_succ ih.1 extending, extending⟩

/-- What the value of a struct or an intersection is encoded to is the JSON form of the value.  It
is encoded exactly if all its entries can be written along the node, and it is if members of
intersections agree everywhere in the node. -/
theorem encode_combined_of_decode (combined : node.Combined)
    (root : node.structKind?.isSome = true) (decoded : codec.decode node wire = .ok value) :
    (∀ written, codec.encode node value = .ok written → value.toJson? = some written) ∧
      ((∃ written, codec.encode node value = .ok written ∧ value.toJson? = some written) ↔
        ∃ entries, value.properties? = some entries ∧
          codec.Writes entries codec.options.maxDepth node) ∧
        (node.Agreeing →
          ∃ written, codec.encode node value = .ok written ∧ value.toJson? = some written) := by
  have taken : codec.Decodes codec.options.maxDepth node wire value := decode_eq_ok_iff.mp decoded
  have faithful (written : Json) (encoded : codec.encode node value = .ok written) :
      value.toJson? = some written :=
    (faithful_and_restoring codec _).1 node combined wire value written taken
      (encode_eq_ok_iff.mp encoded)
  obtain ⟨fields, entries, rfl, known, _, _⟩ := exists_entries_of_decodes combined root taken
  refine ⟨faithful, ⟨?_, ?_⟩, fun agreeing => ?_⟩
  · rintro ⟨written, encoded, _⟩
    exact ⟨entries, known,
      (exists_encodes_iff_writes combined root taken known known fun _ present => present).mp
        ⟨written, encode_eq_ok_iff.mp encoded⟩⟩
  · rintro ⟨_, known', writes⟩
    obtain rfl := Option.some.inj (known.symm.trans known')
    obtain ⟨written, encoded⟩ :=
      (exists_encodes_iff_writes combined root taken known known fun _ present => present).mpr
        writes
    have encoded := encode_eq_ok_iff.mpr encoded
    exact ⟨written, encoded, faithful written encoded⟩
  · obtain ⟨written, encoded, _⟩ :=
      (returning_and_extending codec _).1 node combined agreeing _ _ taken
    have encoded := encode_eq_ok_iff.mpr encoded
    exact ⟨written, encoded, faithful written encoded⟩

/-- A struct of one property. -/
def holding (name : String) (kind : BuiltIn) : Node :=
  .struct .array [Node.required name (.builtIn kind)]

theorem combined_holding (name : String) (kind : BuiltIn) : (holding name kind).Combined := by
  refine .intro ⟨by simp, by simp [Node.required]⟩ fun child inside => ?_
  obtain rfl := List.mem_singleton.mp inside
  exact .leaf trivial rfl

theorem decodes_holding {name : String} {kind : BuiltIn} {fields : Dict Json} {data : Json}
    (found : Dict.get? fields name = some data) (taken : codec.primitive? kind data = some value) :
    codec.Decodes (levels + 1 + 1) (holding name kind) (.object fields) (.map [(name, value)]) := by
  refine decodes_struct_iff.mpr ⟨fields, [(name, value)], rfl, rfl, ?_⟩
  rw [readProperties, sortedProperties_singleton]
  exact .present found (decodes_builtIn_iff.mpr taken) .nil

/-- Two structs with a property of one name. -/
def shared (kind other : BuiltIn) : Node :=
  .intersection [holding "x" kind, holding "x" other] .array

theorem combined_shared (kind other : BuiltIn) : (shared kind other).Combined := by
  refine .intro (fun member among => ?_) fun child inside => ?_
  · rcases List.mem_pair.mp among with rfl | rfl <;> rfl
  · rcases List.mem_pair.mp inside with rfl | rfl
    · exact combined_holding "x" kind
    · exact combined_holding "x" other

theorem decodes_shared {kind other : BuiltIn} {data : Json} {entry final : Value}
    (first : codec.primitive? kind data = some entry)
    (second : codec.primitive? other data = some final) :
    codec.Decodes (levels + 1 + 1 + 1) (shared kind other) (.object [("x", data)])
      (.map [("x", final)]) := by
  refine decodes_intersection_iff.mpr ⟨_, [("x", final)], rfl, rfl, ?_⟩
  exact .cons ⟨_, decodes_holding rfl first, rfl⟩ (.cons ⟨_, decodes_holding rfl second, rfl⟩ .nil)

theorem agreeing_shared (kind : BuiltIn) : (shared kind kind).Agreeing := by
  have one {name : String} {property : Property Node}
      (has : (holding name kind).HasProperty property) :
      property = Node.required name (.builtIn kind) := by
    cases has with
    | struct among => exact List.mem_singleton.mp among
  have both {property : Property Node} (has : (shared kind kind).HasProperty property) :
      property = Node.required "x" (.builtIn kind) := by
    cases has with
    | intersection among inside =>
        rcases List.mem_pair.mp among with rfl | rfl <;> exact one inside
  refine .intro ⟨fun property other has has' _ => by rw [both has, both has'], ?_⟩ ?_
  · rintro member among bounded
    rcases List.mem_pair.mp among with rfl | rfl <;> cases bounded
  · intro child among
    have leaf : (holding "x" kind).Agreeing := by
      refine .intro trivial fun child inside => ?_
      obtain rfl := List.mem_singleton.mp inside
      exact .leaf trivial rfl
    rcases List.mem_pair.mp among with rfl | rfl <;> exact leaf

theorem encode_combined_of_shared :
    (shared .int .int).Combined ∧ (shared .int .int).structKind?.isSome = true ∧
      ({ types := {} } : Codec).decode (shared .int .int) (.object [("x", .ofInt64 1)]) =
        .ok (.map [("x", .int 1)]) ∧
        ∃ written, ({ types := {} } : Codec).encode (shared .int .int) (.map [("x", .int 1)]) =
          .ok written ∧ (Value.map [("x", .int 1)]).toJson? = some written := by
  have combined := combined_shared .int .int
  have taken : ({ types := {} } : Codec).Decodes (125 + 1 + 1 + 1) (shared .int .int)
      (.object [("x", .ofInt64 1)]) (.map [("x", .int 1)]) := decodes_shared rfl rfl
  have decoded := decode_eq_ok_iff.mpr taken
  exact ⟨combined, rfl, decoded, (encode_combined_of_decode combined rfl decoded).2.2
    (agreeing_shared .int)⟩

/-- A double that a later member read from an integer is not taken by a member for integers. -/
theorem shared_name_turnsDown :
    (shared .int .float).Combined ∧
      ({ types := {} } : Codec).decode (shared .int .float) (.object [("x", .ofInt64 1)]) =
        .ok (.map [("x", .float .one)]) ∧
        (Value.map [("x", .float .one)]).toJson?.isSome = true ∧
          ∀ written, ({ types := {} } : Codec).encode (shared .int .float)
            (.map [("x", .float .one)]) ≠ .ok written := by
  have one : ({ types := {} } : Codec).primitive? .float (.ofInt64 1) = some (.float .one) :=
    congrArg (some ∘ Value.float) Binary64.ofInt_one
  have taken : ({ types := {} } : Codec).Decodes (125 + 1 + 1 + 1) (shared .int .float)
      (.object [("x", .ofInt64 1)]) (.map [("x", .float .one)]) := decodes_shared rfl one
  refine ⟨combined_shared .int .float, decode_eq_ok_iff.mpr taken, rfl, fun written encoded => ?_⟩
  have encoded : ({ types := {} } : Codec).Encodes (125 + 1 + 1 + 1) _ _ written :=
    encode_eq_ok_iff.mp encoded
  obtain ⟨_, _, shown, _, gathered⟩ := encodes_intersection_iff.mp encoded
  cases shown
  cases gathered with
  | cons given _ =>
      obtain ⟨_, _, shown, _, collected⟩ := encodes_struct_iff.mp given
      cases shown
      rw [writtenProperties, sortedProperties_singleton] at collected
      cases collected with
      | present found encoded _ =>
          cases found
          cases encodes_builtIn_iff.mp encoded
      | missing absent => cases absent

end Codec

end Schemata
