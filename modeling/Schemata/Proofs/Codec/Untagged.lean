import Schemata.Proofs.Codec.Readings

/-!
# Untagged unions

A union of structs without a discriminator does not remember the arm that took the data.  Its value
is encoded along the first arm that does not turn it down, which writes the properties of the value
that are its own.
-/

namespace Schemata

open List (Forall₂)

/-! ## What is collected -/

namespace Walk

variable {α β γ : Type} {reads : Node → β → α → Prop} {writes : Node → α → γ → Prop}
  {members : Dict β} {values : Dict α} {written : Dict γ}
  {properties others : List (Property Node)}

/-- The value that is read under a key was collected along a property of this name. -/
theorem Collected.exists_of_get?_eq_some (collected : Collected reads members properties values)
    {name : String} {value : α} (found : Dict.get? values name = some value) :
    ∃ property ∈ properties, property.name = name ∧ ∃ member,
      Dict.get? members name = some member ∧ reads property.node member value := by
  induction collected with
  | nil => cases found
  | @present property rest member first values present read later ih =>
      rw [Dict.get?_cons] at found
      split at found
      next same =>
        obtain rfl := Option.some.inj found
        subst same
        exact ⟨property, List.mem_cons_self, rfl, member, present, read⟩
      next =>
        obtain ⟨other, among, rest⟩ := ih found
        exact ⟨other, List.mem_cons_of_mem _ among, rest⟩
  | missing absent optional later ih =>
      obtain ⟨other, among, rest⟩ := ih found
      exact ⟨other, List.mem_cons_of_mem _ among, rest⟩

/-- A property that is not collected is missing. -/
theorem Collected.get?_eq_none (collected : Collected reads members properties values)
    {name : String} (listed : name ∈ properties.map Property.name)
    (absent : Dict.get? values name = none) : Dict.get? members name = none := by
  induction collected with
  | nil => cases listed
  | present found read later ih =>
      rw [Dict.get?_cons] at absent
      split at absent
      next => cases absent
      next differs =>
        rcases List.mem_cons.mp listed with same | listed
        · exact absurd same.symm differs
        · exact ih listed absent
  | missing missing optional later ih =>
      rcases List.mem_cons.mp listed with same | listed
      · rw [same]
        exact missing
      · exact ih listed absent

/-- Properties in ascending order collect the entries that have their names. -/
theorem Collected.forall₂_filter {shows : α → γ → Prop}
    (collected : Collected writes values properties written)
    (ascending : (values.map Prod.fst).Pairwise (· < ·))
    (names : (properties.map Property.name).Pairwise (· < ·))
    (each : ∀ property ∈ properties, ∀ value found,
      Dict.get? values property.name = some value → writes property.node value found →
        shows value found) :
    Forall₂ (fun entry found => entry.1 = found.1 ∧ shows entry.2 found.2)
      (values.filter fun entry => entry.1 ∈ properties.map Property.name) written := by
  induction collected with
  | nil => simp
  | @present property rest value first written found writes later ih =>
      rw [List.map_cons, List.pairwise_cons] at names
      rw [List.map_cons, Dict.filter_cons_of_get?_eq_some ascending found names.1]
      refine .cons ⟨rfl, each property List.mem_cons_self _ _ found writes⟩ ?_
      exact ih names.2 fun other among => each other (List.mem_cons_of_mem _ among)
  | @missing property rest written absent optional later ih =>
      rw [List.map_cons, List.pairwise_cons] at names
      rw [List.map_cons, Dict.filter_cons_of_get?_eq_none _ absent]
      exact ih names.2 fun other among => each other (List.mem_cons_of_mem _ among)

/-- Properties that are collected from a result could be collected from what it stems from, if those
that are missing are missing there. -/
theorem Collected.exists_of_collected (collected : Collected writes values properties written)
    (present : ∀ property ∈ properties, ∀ value found,
      Dict.get? values property.name = some value → writes property.node value found →
        ∃ member other, Dict.get? members property.name = some member ∧
          reads property.node member other)
    (missing : ∀ property ∈ properties, property.optional = true →
      Dict.get? values property.name = none → Dict.get? members property.name = none) :
    ∃ others, Collected reads members properties others := by
  induction collected with
  | nil => exact ⟨[], .nil⟩
  | @present property rest value first written found writes later ih =>
      obtain ⟨member, other, here, read⟩ := present property List.mem_cons_self _ _ found writes
      obtain ⟨others, inside⟩ := ih
        (fun other among => present other (List.mem_cons_of_mem _ among))
        fun other among => missing other (List.mem_cons_of_mem _ among)
      exact ⟨(property.name, other) :: others, .present here read inside⟩
  | @missing property rest written absent optional later ih =>
      obtain ⟨others, inside⟩ := ih
        (fun other among => present other (List.mem_cons_of_mem _ among))
        fun other among => missing other (List.mem_cons_of_mem _ among)
      exact ⟨others, .missing (missing property List.mem_cons_self optional absent) optional inside⟩

end Walk

/-- A struct whose properties are data, in both directions and under distinct names. -/
structure DataStruct where
  kind : StructKind
  properties : List (Property Node)
  distinct : (properties.map Property.name).Nodup
  both : ∀ property ∈ properties, property.direction = .both
  data : ∀ property ∈ properties, property.node.IsData

namespace DataStruct

def node (arm : DataStruct) : Node :=
  .struct arm.kind arm.properties

def names (arm : DataStruct) : List String :=
  arm.properties.map Property.name

/-- The union of some structs, without a discriminator. -/
def union (arms : List DataStruct) : Node :=
  .union (arms.map node) none

/-- The names in the order in which they are walked are the same names. -/
theorem mem_names_iff {arm : DataStruct} {name : String} :
    name ∈ (sortedProperties arm.properties).map Property.name ↔ name ∈ arm.names :=
  ((List.mergeSort_perm _ _).map Property.name).mem_iff

/-- Whatever the earlier struct may lack, the later one has, or the earlier one has all properties
of the later one. -/
def Apart (earlier later : DataStruct) : Prop :=
  (∀ property ∈ earlier.properties, property.optional = true → property.name ∈ later.names) ∨
    later.names ⊆ earlier.names

def Registered (types : TypeRegistry) (arm : DataStruct) : Prop :=
  ∀ property ∈ arm.properties, property.node.Everywhere fun node =>
    ∀ name, node = .enumeration name → (types.enum? name).isSome = true

end DataStruct

namespace Codec

open Walk DataStruct

variable {codec : Codec} {levels : Nat} {arms : List DataStruct} {arm taker : DataStruct}
  {wire written : Json} {value : Value}

/-! ## Arms -/

theorem decodes_arm_iff : codec.Decodes (levels + 1) arm.node wire value ↔
    ∃ members entries, wire = .object members ∧ value = arm.kind.value entries ∧
      Collected (codec.Decodes levels) members (sortedProperties arm.properties) entries := by
  rw [node, decodes_struct_iff, readProperties_eq_sorted arm.both]

theorem encodes_arm_iff : codec.Encodes (levels + 1) arm.node value written ↔
    ∃ entries members, value.properties? = some entries ∧ written = .object members ∧
      Collected (codec.Encodes levels) entries (sortedProperties arm.properties) members := by
  rw [node, encodes_struct_iff, writtenProperties_eq_sorted arm.both]

/-- A registered arm is settled both ways. -/
theorem settled_of_registered {types : TypeRegistry} (registered : arm.Registered types) :
    arm.node.Everywhere (SettledBothWays types) := by
  refine .intro trivial fun child inside => ?_
  obtain ⟨property, among, rfl⟩ := List.mem_map.mp inside
  have data := arm.data property among
  have known := registered property among
  generalize property.node = node at data known
  induction data with
  | @intro node root _ ih =>
      refine .intro ?_ fun child member => ih child member (known.of_mem_children member)
      cases node with
      | enumeration name => exact known.here name rfl
      | builtIn | literal | list | record => trivial
      | _ => exact root.elim

/-- The arm encodes the value, and the arms ahead of it turn the value down. -/
def EncodedBy (codec : Codec) (levels : Nat) (arms : List DataStruct) (value : Value)
    (arm : DataStruct) (written : Json) : Prop :=
  ∃ before after, arms = before ++ arm :: after ∧
    (∀ other ∈ before, codec.TurnsDown levels other.node value) ∧
      codec.Encodes levels arm.node value written

theorem EncodedBy.encodes (first : codec.EncodedBy levels arms value arm written) :
    codec.Encodes levels arm.node value written := by
  obtain ⟨_, _, _, _, encoded⟩ := first
  exact encoded

theorem decodes_untagged_iff : codec.Decodes (levels + 1) (union arms) wire value ↔
    ∃ before arm after, arms = before ++ arm :: after ∧
      (∀ other ∈ before, codec.Refuses levels other.node wire) ∧
        codec.Decodes levels arm.node wire value := by
  rw [union, decodes_union_iff]
  constructor
  · rintro ⟨before, member, after, split, refuses, decoded⟩
    obtain ⟨before, rest, rfl, rfl, later⟩ := List.map_eq_append_iff.mp split
    obtain ⟨arm, after, rfl, rfl, rfl⟩ := List.map_eq_cons_iff.mp later
    exact ⟨before, arm, after, rfl, List.forall_mem_map.mp refuses, decoded⟩
  · rintro ⟨before, arm, after, rfl, refuses, decoded⟩
    refine ⟨before.map node, arm.node, after.map node, ?_, ?_, decoded⟩
    · rw [List.map_append, List.map_cons]
    · exact List.forall_mem_map.mpr refuses

theorem encodes_untagged_iff : codec.Encodes (levels + 1) (union arms) value written ↔
    ∃ arm, codec.EncodedBy levels arms value arm written := by
  rw [union, encodes_unselected_iff rfl]
  constructor
  · rintro ⟨before, member, after, split, turned, encoded⟩
    obtain ⟨before, rest, rfl, rfl, later⟩ := List.map_eq_append_iff.mp split
    obtain ⟨arm, after, rfl, rfl, rfl⟩ := List.map_eq_cons_iff.mp later
    exact ⟨arm, before, after, rfl, List.forall_mem_map.mp turned, encoded⟩
  · rintro ⟨arm, before, after, rfl, turned, encoded⟩
    refine ⟨before.map node, arm.node, after.map node, ?_, ?_, encoded⟩
    · rw [List.map_append, List.map_cons]
    · exact List.forall_mem_map.mpr turned

/-! ## Values of arms -/

section

variable {members : Dict Json} {entries : Dict Value} {kind : StructKind}
  (strict : codec.options.coercePrimitives = false)
  (taken : Collected (codec.Decodes levels) members (sortedProperties taker.properties) entries)

include taken

/-- The entries are in ascending order of their names. -/
theorem ascending_of_taken : (entries.map Prod.fst).Pairwise (· < ·) :=
  (ascending_sortedProperties taker.distinct).sublist taken.names_sublist

/-- Every entry has a name of the arm. -/
theorem mem_names_of_taken {entry : String × Value} (member : entry ∈ entries) :
    entry.1 ∈ taker.names :=
  mem_names_iff.mp (taken.names_sublist.subset (List.mem_map_of_mem member))

/-- Every entry is read from the member of its name. -/
theorem reads_of_taken {name : String} {found : Value}
    (there : Dict.get? entries name = some found) :
    ∃ member, Dict.get? members name = some member ∧ codec.Reads member found := by
  obtain ⟨property, among, _, member, present, decoded⟩ := taken.exists_of_get?_eq_some there
  have data := taker.data property (mem_sortedProperties.mp among)
  exact ⟨member, present, levels, property.node, data, decoded⟩

include strict

/-- What an arm writes is the JSON form of the entries that have its names. -/
theorem showsAs_filter_of_encodes
    (encoded : codec.Encodes (levels + 1) arm.node (kind.value entries) written) :
    (kind.value (entries.filter fun entry => entry.1 ∈ arm.names)).ShowsAs written := by
  obtain ⟨found, members, fields, rfl, collected⟩ := encodes_arm_iff.mp encoded
  obtain rfl := Option.some.inj ((properties?_kind_value kind entries).symm.trans fields)
  have each (property : Property Node) (among : property ∈ sortedProperties arm.properties)
      (value : Value) (found : Json) (there : Dict.get? entries property.name = some value)
      (writes : codec.Encodes levels property.node value found) : value.ShowsAs found := by
    obtain ⟨member, _, reads⟩ := reads_of_taken taken there
    exact showsAs_of_reads strict (arm.data property (mem_sortedProperties.mp among)) reads writes
  have shown := collected.forall₂_filter (ascending_of_taken taken)
    (ascending_sortedProperties arm.distinct) each
  simp only [mem_names_iff] at shown
  exact showsAs_kind_value kind shown

/-- An arm writes the JSON form of the value exactly when it has all of its entries. -/
theorem showsAs_iff_of_encodes
    (encoded : codec.Encodes (levels + 1) arm.node (kind.value entries) written) :
    (kind.value entries).ShowsAs written ↔ ∀ entry ∈ entries, entry.1 ∈ arm.names := by
  constructor
  · intro shown entry member
    obtain ⟨found, members, fields, rfl, collected⟩ := encodes_arm_iff.mp encoded
    have keys := Value.keys_of_showsAs (properties?_kind_value kind entries) shown
    have inside : entry.1 ∈ members.map Prod.fst := by
      rw [← keys]
      exact List.mem_map_of_mem member
    exact mem_names_iff.mp (collected.names_sublist.subset inside)
  · intro covered
    have whole : (entries.filter fun entry => entry.1 ∈ arm.names) = entries := by
      apply List.filter_eq_self.mpr
      intro entry member
      exact decide_eq_true (covered entry member)
    have shown := showsAs_filter_of_encodes strict taken encoded
    rw [whole] at shown
    exact shown

/-- An arm that encodes the value would have decoded the data, unless it has an optional property
that the value cannot have. -/
theorem exists_decodes_of_encodes_arm
    (optional : ∀ property ∈ arm.properties, property.optional = true →
      property.name ∈ taker.names)
    (encoded : codec.Encodes (levels + 1) arm.node (kind.value entries) written) :
    ∃ found, codec.Decodes (levels + 1) arm.node (.object members) found := by
  obtain ⟨found, written, fields, rfl, collected⟩ := encodes_arm_iff.mp encoded
  obtain rfl := Option.some.inj ((properties?_kind_value kind entries).symm.trans fields)
  have again : ∃ others,
      Collected (codec.Decodes levels) members (sortedProperties arm.properties) others := by
    apply collected.exists_of_collected
    · intro property among value found there writes
      obtain ⟨member, present, reads⟩ := reads_of_taken taken there
      have data := arm.data property (mem_sortedProperties.mp among)
      obtain ⟨other, decoded⟩ := exists_decodes_of_encodes strict data reads writes
      exact ⟨member, other, present, decoded⟩
    · intro property among missing absent
      have listed := optional property (mem_sortedProperties.mp among) missing
      exact taken.get?_eq_none (mem_names_iff.mpr listed) absent
  obtain ⟨others, decoded⟩ := again
  exact ⟨arm.kind.value others, decodes_arm_iff.mpr ⟨members, others, rfl, rfl, decoded⟩⟩

end

/-! ## Round trips -/

/-- The value is encoded along the node to its JSON form. -/
def ComesBack (codec : Codec) (node : Node) (value : Value) : Prop :=
  ∃ written, codec.encode node value = .ok written ∧ value.ShowsAs written

/-- The value comes back exactly when the arm that encodes it has all of its entries. -/
theorem comesBack_iff {members : Dict Json} {entries : Dict Value} {kind : StructKind}
    (strict : codec.options.coercePrimitives = false)
    (limit : codec.options.maxDepth = levels + 1 + 1)
    (taken : Collected (codec.Decodes levels) members (sortedProperties taker.properties) entries) :
    codec.ComesBack (union arms) (kind.value entries) ↔
      ∃ arm written, codec.EncodedBy (levels + 1) arms (kind.value entries) arm written ∧
        ∀ entry ∈ entries, entry.1 ∈ arm.names := by
  constructor
  · rintro ⟨written, encoded, shown⟩
    have within := encode_eq_ok_iff.mp encoded
    rw [limit] at within
    obtain ⟨arm, before, after, split, turned, inside⟩ := encodes_untagged_iff.mp within
    have covered := (showsAs_iff_of_encodes strict taken inside).mp shown
    exact ⟨arm, written, ⟨before, after, split, turned, inside⟩, covered⟩
  · rintro ⟨arm, written, first, covered⟩
    have encoded : codec.encode (union arms) (kind.value entries) = .ok written := by
      apply encode_eq_ok_iff.mpr
      rw [limit]
      exact encodes_untagged_iff.mpr ⟨arm, first⟩
    exact ⟨written, encoded, (showsAs_iff_of_encodes strict taken first.encodes).mpr covered⟩

/-- Among registered arms, one of which can encode the value, a first one does. -/
theorem exists_encodedBy {before : List DataStruct} (after : List DataStruct)
    (registered : ∀ other ∈ before, other.Registered codec.types)
    (encoded : codec.Encodes levels taker.node value written) :
    codec.EncodedBy levels (before ++ taker :: after) value taker written ∨
      ∃ ahead arm between found, before = ahead ++ arm :: between ∧
        codec.EncodedBy levels (before ++ taker :: after) value arm found := by
  have tries : (∀ other ∈ before, codec.TurnsDown levels other.node value) ∨ _ :=
    invalid_or_first (fun other _ => steady_encodeWithin codec levels other.node value)
      fun other among =>
        faultless_encodeWithin (settled_of_registered (registered other among)) value
  rcases tries with all | ⟨ahead, arm, between, found, rfl, turned, first⟩
  · left
    exact ⟨before, after, rfl, all, encoded⟩
  · right
    refine ⟨ahead, arm, between, found, rfl, ahead, between ++ taker :: after, ?_, turned, first⟩
    rw [List.append_assoc, List.cons_append]

/-- Data that decodes along a union is an object that one arm takes and all arms ahead refuse. -/
theorem exists_taker_of_decode (decoded : codec.decode (union arms) wire = .ok value) :
    ∃ levels before taker after members entries, codec.options.maxDepth = levels + 1 + 1 ∧
      arms = before ++ taker :: after ∧ wire = .object members ∧
        value = taker.kind.value entries ∧
          (∀ other ∈ before, codec.Refuses (levels + 1) other.node (.object members)) ∧
            Collected (codec.Decodes levels) members (sortedProperties taker.properties)
              entries := by
  have within : codec.Decodes codec.options.maxDepth (union arms) wire value :=
    decode_eq_ok_iff.mp decoded
  cases limit : codec.options.maxDepth with
  | zero =>
      rw [limit] at within
      exact absurd within not_decodes_zero
  | succ fewer =>
      rw [limit] at within
      obtain ⟨before, taker, after, split, refuses, inside⟩ := decodes_untagged_iff.mp within
      cases fewer with
      | zero => exact absurd inside not_decodes_zero
      | succ levels =>
          obtain ⟨members, entries, rfl, rfl, taken⟩ := decodes_arm_iff.mp inside
          exact ⟨levels, before, taker, after, members, entries, rfl, split, rfl, rfl, refuses,
            taken⟩

/-- An arm that refused the data and yet encodes the value has all entries of the value, if it is
apart from the arm that took the data. -/
theorem covers_of_apart {members : Dict Json} {entries : Dict Value} {kind : StructKind}
    (strict : codec.options.coercePrimitives = false)
    (taken : Collected (codec.Decodes levels) members (sortedProperties taker.properties) entries)
    (apart : Apart arm taker)
    (refused : codec.Refuses (levels + 1) arm.node (.object members))
    (encoded : codec.Encodes (levels + 1) arm.node (kind.value entries) written) :
    ∀ entry ∈ entries, entry.1 ∈ arm.names := by
  rcases apart with optional | all
  · -- Such an arm would have taken the data.
    obtain ⟨found, decoded⟩ := exists_decodes_of_encodes_arm strict taken optional encoded
    rw [Refuses, decoded] at refused
    cases refused
  · intro entry member
    exact all (mem_names_of_taken taken member)

/-- Along a union of structs without a discriminator, a value that data decodes to comes back
exactly when the arm that encodes it has all of its entries.  When all enums are registered, an arm
does encode the value and writes the entries that it has, and the value always comes back when each
two arms are apart. -/
theorem encode_untagged_of_decode (strict : codec.options.coercePrimitives = false)
    (decoded : codec.decode (union arms) wire = .ok value) :
    ∃ (kind : StructKind) (entries : Dict Value), value = kind.value entries ∧
      (codec.ComesBack (union arms) value ↔
        ∃ arm written, codec.EncodedBy (codec.options.maxDepth - 1) arms value arm written ∧
          ∀ entry ∈ entries, entry.1 ∈ arm.names) ∧
      ((∀ arm ∈ arms, arm.Registered codec.types) →
        (∃ arm written, codec.EncodedBy (codec.options.maxDepth - 1) arms value arm written ∧
          codec.encode (union arms) value = .ok written ∧
            (kind.value (entries.filter fun entry => entry.1 ∈ arm.names)).ShowsAs written) ∧
        (arms.Pairwise Apart → codec.ComesBack (union arms) value)) := by
  obtain ⟨levels, before, taker, after, members, entries, limit, rfl, rfl, rfl, refuses, taken⟩ :=
    exists_taker_of_decode decoded
  rw [limit]
  refine ⟨taker.kind, entries, rfl, comesBack_iff strict limit taken, fun registered => ?_⟩
  have inside := decodes_arm_iff.mpr ⟨members, entries, rfl, rfl, taken⟩
  obtain ⟨again, backward, _⟩ := roundTrips_struct taker.distinct taker.both
    (fun property among _ _ => roundTrips_of_data (taker.data property among)) inside
  have known (other : DataStruct) (among : other ∈ before) : other.Registered codec.types :=
    registered other (List.mem_append_left _ among)
  have choice := exists_encodedBy after known backward
  constructor
  · obtain ⟨arm, written, first⟩ : ∃ arm written, codec.EncodedBy (levels + 1)
        (before ++ taker :: after) (taker.kind.value entries) arm written := by
      rcases choice with first | ⟨_, arm, _, found, _, first⟩
      · exact ⟨taker, again, first⟩
      · exact ⟨arm, found, first⟩
    refine ⟨arm, written, first, ?_, ?_⟩
    · apply encode_eq_ok_iff.mpr
      rw [limit]
      exact encodes_untagged_iff.mpr ⟨arm, first⟩
    · exact showsAs_filter_of_encodes strict taken first.encodes
  · intro apart
    apply (comesBack_iff strict limit taken).mpr
    rcases choice with first | ⟨ahead, arm, between, found, rfl, first⟩
    · exact ⟨taker, again, first, fun entry member => mem_names_of_taken taken member⟩
    · have earlier : arm ∈ ahead ++ arm :: between := by simp
      have pair := (List.pairwise_append.mp apart).2.2 arm earlier taker List.mem_cons_self
      exact ⟨arm, found, first,
        covers_of_apart strict taken pair (refuses arm earlier) first.encodes⟩

/-- A struct of two integers, the second of which may be optional. -/
def couple (name : String) (optional : Bool) (differs : "a" < name) : DataStruct where
  kind := .array
  properties :=
    [Node.required "a" (.builtIn .int), ⟨name, .builtIn .int, optional, .both⟩]
  distinct := by
    have fresh : "a" ≠ name := by
      rintro rfl
      exact String.lt_irrefl _ differs
    simpa [Node.required] using fresh
  both := by simp [Node.required]
  data property among := by
    rcases List.mem_pair.mp among with rfl | rfl
    · exact .leaf trivial rfl
    · exact .leaf trivial rfl

theorem sortedProperties_couple {name : String} {optional : Bool} (differs : "a" < name) :
    sortedProperties (couple name optional differs).properties =
      (couple name optional differs).properties := by
  rw [couple, sortedProperties_pair, if_neg]
  intro above
  exact String.lt_irrefl _ (String.lt_trans above differs)

/-- Two integers, beside a text. -/
def numbered : Json :=
  .object [("a", .ofInt64 1), ("c", .ofInt64 2), ("x", .string "s")]

def numbers : Dict Value :=
  [("a", .int 1), ("c", .int 2)]

/-- The integers are decoded along the second of two arms when the first one refuses them. -/
theorem decode_numbered {earlier : DataStruct}
    (refused : ({ types := {} } : Codec).Refuses 127 earlier.node numbered) :
    ({ types := {} } : Codec).decode (union [earlier, couple "c" false (by decide)]) numbered =
      .ok (.map numbers) := by
  have integer (value : Int64) :
      ({ types := {} } : Codec).Decodes (125 + 1) (.builtIn .int) (.ofInt64 value)
        (.int value) := by
    apply decodes_builtIn_iff.mpr
    rw [primitive?_of_strict rfl, Json.ofInt64, ownPrimitive?, Json.Number.toInt64?_ofInt64]
    rfl
  have inside : ({ types := {} } : Codec).Decodes (126 + 1) (couple "c" false (by decide)).node
      numbered (.map numbers) := by
    refine decodes_arm_iff.mpr ⟨_, numbers, rfl, rfl, ?_⟩
    rw [sortedProperties_couple]
    exact .present rfl (integer 1) (.present rfl (integer 2) .nil)
  have within : ({ types := {} } : Codec).Decodes (127 + 1)
      (union [earlier, couple "c" false (by decide)]) numbered (.map numbers) := by
    refine decodes_untagged_iff.mpr ⟨[earlier], _, [], rfl, ?_, inside⟩
    intro other among
    obtain rfl := List.mem_singleton.mp among
    exact refused
  exact decode_eq_ok_iff.mpr within

/-- Two arms that are apart, the first of which refuses the data. -/
def siblings : List DataStruct :=
  [couple "b" false (by decide), couple "c" false (by decide)]

theorem refuses_sibling :
    ({ types := {} } : Codec).Refuses 127 (couple "b" false (by decide)).node numbered := by
  rw [Refuses, node, decodeWithin_of_not_ref rfl]
  simp only [decodeShape, numbered, sortedProperties_couple]
  rfl

theorem registered_couple {name : String} {optional : Bool} (differs : "a" < name) :
    (couple name optional differs).Registered {} := by
  intro property among
  rcases List.mem_pair.mp among with rfl | rfl
  · exact .leaf (fun _ => Node.noConfusion) rfl
  · exact .leaf (fun _ => Node.noConfusion) rfl

/-- The integers come back along arms that are apart. -/
theorem encode_untagged_of_siblings :
    ({ types := {} } : Codec).options.coercePrimitives = false ∧
      ({ types := {} } : Codec).decode (union siblings) numbered = .ok (.map numbers) ∧
        (∀ arm ∈ siblings, arm.Registered {}) ∧ siblings.Pairwise Apart ∧
          ({ types := {} } : Codec).ComesBack (union siblings) (.map numbers) := by
  have decoded : ({ types := {} } : Codec).decode (union siblings) numbered =
      .ok (.map numbers) := decode_numbered refuses_sibling
  have registered : ∀ arm ∈ siblings, arm.Registered {} := by
    intro arm among
    rcases List.mem_pair.mp among with rfl | rfl
    · exact registered_couple _
    · exact registered_couple _
  have apart : siblings.Pairwise Apart := by
    have required : Apart (couple "b" false (by decide)) (couple "c" false (by decide)) := by
      left
      intro property among optional
      rcases List.mem_pair.mp among with rfl | rfl
      · cases optional
      · cases optional
    exact List.pairwise_pair.mpr required
  obtain ⟨_, _, _, _, back⟩ := encode_untagged_of_decode rfl decoded
  exact ⟨rfl, decoded, registered, apart, (back registered).2 apart⟩

/-- Two arms, the first of which refuses the data for an optional property that is not kept. -/
def concealing : List DataStruct :=
  [couple "x" true (by decide), couple "c" false (by decide)]

theorem refuses_concealing :
    ({ types := {} } : Codec).Refuses 127 (couple "x" true (by decide)).node numbered := by
  rw [Refuses, node, decodeWithin_of_not_ref rfl]
  simp only [decodeShape, numbered, sortedProperties_couple]
  rfl

/-- The arm that refused the data takes the value, and loses one of the integers. -/
theorem untagged_loses_entry :
    Discriminator.infer? (concealing.map node) = none ∧
      ({ types := {} } : Codec).decode (union concealing) numbered = .ok (.map numbers) ∧
        ({ types := {} } : Codec).encode (union concealing) (.map numbers) =
          .ok (.object [("a", .ofInt64 1)]) ∧
        ¬ ({ types := {} } : Codec).ComesBack (union concealing) (.map numbers) := by
  have inside : ({ types := {} } : Codec).Encodes (126 + 1) (couple "x" true (by decide)).node
      (.map numbers) (.object [("a", .ofInt64 1)]) := by
    refine encodes_arm_iff.mpr ⟨numbers, [("a", .ofInt64 1)], rfl, rfl, ?_⟩
    rw [sortedProperties_couple]
    have integer : ({ types := {} } : Codec).Encodes (125 + 1) (.builtIn .int) (.int 1)
        (.ofInt64 1) := encodes_builtIn_iff.mpr rfl
    exact .present rfl integer (.missing rfl rfl .nil)
  have within : ({ types := {} } : Codec).Encodes (127 + 1) (union concealing) (.map numbers)
      (.object [("a", .ofInt64 1)]) :=
    encodes_untagged_iff.mpr ⟨_, [], _, rfl, by simp, inside⟩
  have encoded : ({ types := {} } : Codec).encode (union concealing) (.map numbers) =
      .ok (.object [("a", .ofInt64 1)]) := encode_eq_ok_iff.mpr within
  refine ⟨by decide, decode_numbered refuses_concealing, encoded, ?_⟩
  rintro ⟨written, again, shown⟩
  obtain rfl := Except.ok.inj (encoded.symm.trans again)
  have keys := Value.keys_of_showsAs rfl shown
  cases keys

end Codec

end Schemata
