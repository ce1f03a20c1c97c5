import Schemata.Proofs.Codec.Faultless
import Schemata.Proofs.Codec.Selection
import Schemata.Proofs.Json.Text

/-!
# Dispatch and trial

A discriminator that is inferred for some members dispatches data by the text of one field, where
the union without it tries the members in order.  The two agree when the texts tell apart what the
literals tell apart: every tag that the literal of a member takes is dispatched to the member.
-/

namespace Schemata

/-- The two zeros have different texts. -/
theorem Json.zero_texts_differ (negative : Bool) :
    (Literal.float (.zero negative)).wireKey ≠
      (Json.number (.float (.zero !negative) rfl)).compact := by
  cases negative with
  | true => decide
  | false => decide

/-- The signed word of a JSON number is the number. -/
theorem Json.Number.eq_ofInt64 {number : Json.Number} {value : Int64}
    (word : number.toInt64? = some value) : number = .ofInt64 value := by
  cases number with
  | float => cases word
  | integer integer fits =>
      simp only [toInt64?] at word
      split at word
      next below =>
        obtain rfl := Option.some.inj word
        have same : (Int64.ofInt integer).toInt = integer :=
          Int64.toInt_ofInt_of_le fits.1 (by omega)
        simp [ofInt64, same]
      next => cases word

theorem Json.Number.toInt64?_ofInt64 (value : Int64) : (ofInt64 value).toInt64? = some value := by
  have below := Int64.toInt_lt value
  simp only [ofInt64, toInt64?]
  rw [if_pos (by omega), Int64.ofInt_toInt]

namespace Codec

open Walk

variable {codec : Codec} {members : List Node} {discriminator : Discriminator} {tag wire : Json}
  {levels arm : Nat} {member : Node}

/-! ## Tags -/

/-- What the tags of a union have to satisfy for texts to tell them apart as literals do: they are
read, none is a zero, and no double among them is equal to an integer among them. -/
structure TagsApart (members : List Node) (field : String) : Prop where
  read : ∀ member ∈ members, ∀ property literal, member.Pins field property literal →
    property.direction.isInput = true
  nonzero : ∀ member ∈ members, ∀ property double, member.Pins field property (.float double) →
    double.numEq (.zero false) = false
  distinct : ∀ member ∈ members, ∀ other ∈ members, ∀ property property' integer double,
    member.Pins field property (.int integer) → other.Pins field property' (.float double) →
      (Binary64.ofInt integer.toInt).numEq double = false

/-- A member has nothing against a tag: the literal that it reads under the field takes the tag. -/
def TakesTag (codec : Codec) (field : String) (member : Node) (tag : Json) : Prop :=
  ∀ property literal, member.Pins field property literal → property.direction.isInput = true →
    codec.isLiteral literal tag = true

/-- Every tag is dispatched to every member that takes it. -/
def Routes (codec : Codec) (members : List Node) (discriminator : Discriminator) : Prop :=
  ∀ arm member tag, members[arm]? = some member →
    codec.TakesTag discriminator.field member tag → discriminator.armFor? tag = some arm

/-- Without coercion, what a literal takes is its own data, or a number equal to a double. -/
theorem eq_or_numEq_of_isLiteral (strict : codec.options.coercePrimitives = false)
    {literal : Literal} (taken : codec.isLiteral literal tag = true) :
    tag = literal.toJson ∨ ∃ double number, literal = .float double ∧ tag = .number number ∧
      number.toBinary64.numEq double = true := by
  unfold isLiteral at taken
  rw [strict] at taken
  dsimp only at taken
  split at taken
  · exact Or.inl (congrArg Json.bool (eq_of_beq taken))
  · cases taken
  next number =>
    exact Or.inl (congrArg Json.number (Json.Number.eq_ofInt64 (eq_of_beq taken)))
  · cases taken
  next double number => exact Or.inr ⟨double, number, rfl, rfl, taken⟩
  · cases taken
  · exact Or.inl (congrArg Json.string (eq_of_beq taken))
  · cases taken
  · exact Or.inl (congrArg Json.string (eq_of_beq taken))
  · cases taken

/-- The text of a literal that a member pins selects the member. -/
theorem armFor?_toJson (inferred : Discriminator.infer? members = some discriminator)
    (present : members[arm]? = some member) {property : Property Node} {literal : Literal}
    (pins : member.Pins discriminator.field property literal) :
    discriminator.armFor? literal.toJson = some arm :=
  Discriminator.armFor?_of_key
    ((Discriminator.get?_arms_iff inferred).mpr ⟨member, property, literal, present, pins, rfl⟩)

theorem takesTag_of_isLiteral {field : String} {property : Property Node} {literal : Literal}
    (pins : member.Pins field property literal) (taken : codec.isLiteral literal tag = true) :
    codec.TakesTag field member tag := by
  intro property' literal' pins' _
  obtain ⟨-, rfl⟩ := pins.unique pins'
  exact taken

/-- Tags that are apart are dispatched to the members that take them.  Only an integer can be taken
by another literal than its own, and then no literal has its text. -/
theorem routes_of_tagsApart (inferred : Discriminator.infer? members = some discriminator)
    (strict : codec.options.coercePrimitives = false)
    (apart : TagsApart members discriminator.field) : codec.Routes members discriminator := by
  intro arm member tag present takes
  have among := List.mem_of_getElem? present
  obtain ⟨property, literal, pins⟩ := Discriminator.exists_pins inferred among
  have taken := takes property literal pins (apart.read member among property literal pins)
  rcases eq_or_numEq_of_isLiteral strict taken with rfl | ⟨double, number, rfl, rfl, equal⟩
  · exact armFor?_toJson inferred present pins
  obtain rfl := Binary64.eq_of_numEq equal (apart.nonzero member among property double pins)
  have own := armFor?_toJson inferred present pins
  cases number with
  | float value finite =>
      have form : (Literal.float value).toJson = .number (.float value finite) := by
        simp [Literal.toJson, Json.ofBinary64, Json.Number.ofBinary64?, finite]
      rwa [← form]
  | integer integer fits =>
      have fallback : Dict.get? discriminator.arms
          (Json.ofBinary64 (Binary64.ofInt integer)).compact = some arm :=
        (Discriminator.get?_arms_iff inferred).mpr ⟨member, property, _, present, pins, rfl⟩
      unfold Discriminator.armFor?
      split
      next other found =>
        obtain ⟨member', property', literal', present', pins', same⟩ :=
          (Discriminator.get?_arms_iff inferred).mp found
        obtain ⟨value, rfl, rfl⟩ := Literal.eq_int_of_wireKey same
        have differs := apart.distinct member' (List.mem_of_getElem? present') member among
          property' property value _ pins' pins
        have equal := Binary64.numEq_self_of_isFinite (Binary64.isFinite_ofInt fits)
        exact absurd equal (Bool.eq_false_iff.mp differs)
      next => exact fallback

/-- If every tag is dispatched to the members that take it, the tags are apart. -/
theorem tagsApart_of_routes (inferred : Discriminator.infer? members = some discriminator)
    (routes : codec.Routes members discriminator) : TagsApart members discriminator.field where
  read := by
    intro member among property literal pins
    obtain ⟨arm, present⟩ := List.mem_iff_getElem?.mp among
    obtain ⟨other, member', present', differs⟩ :=
      Discriminator.exists_other_member inferred arm
    obtain ⟨property', literal', pins'⟩ :=
      Discriminator.exists_pins inferred (List.mem_of_getElem? present')
    by_contra unread
    have takes : codec.TakesTag discriminator.field member literal'.toJson := by
      intro property'' literal'' pins'' read
      obtain ⟨rfl, -⟩ := pins.unique pins''
      exact absurd read unread
    have here := routes arm member _ present takes
    rw [armFor?_toJson inferred present' pins'] at here
    exact differs (Option.some.inj here)
  nonzero := by
    intro member among property double pins
    obtain ⟨arm, present⟩ := List.mem_iff_getElem?.mp among
    by_contra zero
    obtain ⟨negative, rfl⟩ := Binary64.eq_zero_of_numEq (by simpa using zero)
    have takes : codec.TakesTag discriminator.field member
        (.number (.float (.zero !negative) rfl)) :=
      takesTag_of_isLiteral pins (by cases negative <;> rfl)
    have here := routes arm member _ present takes
    unfold Discriminator.armFor? at here
    split at here
    next other found =>
      obtain rfl := Option.some.inj here
      obtain ⟨member', property', literal', present', pins', same⟩ :=
        (Discriminator.get?_arms_iff inferred).mp found
      obtain rfl := Option.some.inj (present.symm.trans present')
      obtain ⟨-, rfl⟩ := pins.unique pins'
      exact Json.zero_texts_differ negative same
    next => cases here
  distinct := by
    intro member among member' among' property property' integer double pins pins'
    obtain ⟨arm, present⟩ := List.mem_iff_getElem?.mp among
    obtain ⟨arm', present'⟩ := List.mem_iff_getElem?.mp among'
    by_contra clash
    have equal : (Binary64.ofInt integer.toInt).numEq double = true := by simpa using clash
    have here := routes arm member (Json.ofInt64 integer) present
      (takesTag_of_isLiteral pins (by simp [isLiteral, Json.ofInt64, Json.Number.toInt64?_ofInt64]))
    have there := routes arm' member' (Json.ofInt64 integer) present'
      (takesTag_of_isLiteral pins' equal)
    obtain rfl := Option.some.inj (here.symm.trans there)
    obtain rfl := Option.some.inj (present.symm.trans present')
    obtain ⟨-, same⟩ := pins.unique pins'
    cases same

/-- Apart tags are exactly those that are dispatched to every member that takes them. -/
theorem tagsApart_iff_routes (inferred : Discriminator.infer? members = some discriminator)
    (strict : codec.options.coercePrimitives = false) :
    TagsApart members discriminator.field ↔ codec.Routes members discriminator :=
  ⟨routes_of_tagsApart inferred strict, tagsApart_of_routes inferred⟩

/-! ## Arms -/

/-- Data that a member takes is dispatched to the member. -/
theorem armFor?_of_decodes (inferred : Discriminator.infer? members = some discriminator)
    (strict : codec.options.coercePrimitives = false)
    (apart : TagsApart members discriminator.field) (present : members[arm]? = some member)
    {value : Value} (decoded : codec.Decodes levels member wire value) :
    ∃ entries tag, wire = .object entries ∧ Dict.get? entries discriminator.field = some tag ∧
      discriminator.armFor? tag = some arm := by
  have among := List.mem_of_getElem? present
  obtain ⟨property, literal, pins⟩ := Discriminator.exists_pins inferred among
  have read := apart.read member among property literal pins
  obtain ⟨entries, tag, data, found, taken⟩ := tag_of_decodes pins read decoded
  exact ⟨entries, tag, data, found,
    routes_of_tagsApart inferred strict apart arm member tag present
      (takesTag_of_isLiteral pins taken)⟩

/-- What trial gives is given by dispatch, since the member that takes the data is the one that its
tag selects. -/
theorem decodes_discriminated_of_decodes_union
    (inferred : Discriminator.infer? members = some discriminator)
    (strict : codec.options.coercePrimitives = false)
    (apart : TagsApart members discriminator.field) {value : Value}
    (decoded : codec.Decodes levels (.union members none) wire value) :
    codec.Decodes levels (.union members (some discriminator)) wire value := by
  cases levels with
  | zero => exact absurd decoded not_decodes_zero
  | succ levels =>
      obtain ⟨before, member, after, rfl, _, inside⟩ := decodes_union_iff.mp decoded
      have present : (before ++ member :: after)[before.length]? = some member := by simp
      obtain ⟨entries, tag, data, found, selected⟩ :=
        armFor?_of_decodes inferred strict apart present inside
      exact decodes_discriminated_iff.mpr
        ⟨entries, tag, before.length, member, data, found, selected, present, inside⟩

/-- Data that dispatch takes is taken by trial, though perhaps by a member ahead of the one that it
is dispatched to. -/
theorem exists_decodes_union_of_decodes_discriminated
    (settled : ∀ member ∈ members, member.Everywhere (Settled codec.types)) {value : Value}
    (decoded : codec.Decodes levels (.union members (some discriminator)) wire value) :
    ∃ other, codec.Decodes levels (.union members none) wire other := by
  cases levels with
  | zero => exact absurd decoded not_decodes_zero
  | succ levels =>
      obtain ⟨_, _, _, member, _, _, _, present, inside⟩ := decodes_discriminated_iff.mp decoded
      have tries : (∀ other ∈ members, codec.Refuses levels other wire) ∨ _ :=
        invalid_or_first (fun other _ => steady_decodeWithin codec levels other wire)
          fun other among => faultless_decodeWithin (settled other among) wire
      rcases tries with all | ⟨before, first, after, other, split, refused, found⟩
      · rw [Decodes, all member (List.mem_of_getElem? present)] at inside
        cases inside
      · exact ⟨other, decodes_union_iff.mpr ⟨before, first, after, split, refused, found⟩⟩

/-! ## Whole walks -/

/-- Two results are the same value, or both say that the data is invalid. -/
inductive SameOutcome : Except CodecError Value → Except CodecError Value → Prop where
  | both (value : Value) : SameOutcome (.ok value) (.ok value)
  | neither (failure failure' : Failure) :
      SameOutcome (.error (.invalid failure)) (.error (.invalid failure'))

/-- Settled data that does not come to a value is invalid. -/
theorem decode_ok_or_invalid {node : Node} (settled : node.Everywhere (Settled codec.types)) :
    (∃ value, codec.decode node wire = .ok value) ∨
      ∃ failure, codec.decode node wire = .error (.invalid failure) := by
  rcases conclude_eq (steady_decodeWithin codec codec.options.maxDepth node wire) with
    ⟨value, _, result⟩ | ⟨failure, _, result⟩ | ⟨fault, outcome, _⟩
  · exact Or.inl ⟨value, result⟩
  · exact Or.inr ⟨failure, result⟩
  · exact absurd outcome (faultless_decodeWithin settled wire fault)

section

variable (inferred : Discriminator.infer? members = some discriminator)
  (settled : ∀ member ∈ members, member.Everywhere (Settled codec.types))
include settled

/-- Dispatch and trial agree on data when dispatch gives whatever trial gives. -/
theorem sameOutcome_iff : SameOutcome (codec.decode (.union members (some discriminator)) wire)
    (codec.decode (.union members none) wire) ↔
      ∀ value, codec.decode (.union members none) wire = .ok value →
        codec.decode (.union members (some discriminator)) wire = .ok value := by
  constructor
  · intro same value success
    rw [success] at same
    generalize codec.decode (.union members (some discriminator)) wire = result at same
    cases same
    rfl
  · intro follows
    have dispatched : (Node.union members (some discriminator)).Everywhere (Settled codec.types) :=
      .intro trivial settled
    have tried : (Node.union members none).Everywhere (Settled codec.types) :=
      .intro trivial settled
    rcases decode_ok_or_invalid tried with ⟨value, success⟩ | ⟨failure, refused⟩
    · rw [follows value success, success]
      exact .both value
    · rcases decode_ok_or_invalid dispatched with ⟨value, success⟩ | ⟨failure', refused'⟩
      · obtain ⟨other, found⟩ := exists_decodes_union_of_decodes_discriminated settled
          (decode_eq_ok_iff.mp success)
        rw [decode_eq_ok_iff.mpr found] at refused
        cases refused
      · rw [refused, refused']
        exact .neither failure' failure

include inferred

/-- Dispatch by an inferred discriminator and trial in order agree on all data exactly when dispatch
gives whatever trial gives.  This is so when the tags are apart, that is, when every tag is
dispatched to every member that takes it. -/
theorem dispatch_agrees_with_trial (strict : codec.options.coercePrimitives = false) :
    (TagsApart members discriminator.field → ∀ wire,
      SameOutcome (codec.decode (.union members (some discriminator)) wire)
        (codec.decode (.union members none) wire)) ∧
      (TagsApart members discriminator.field ↔ codec.Routes members discriminator) ∧
        ((∀ wire, SameOutcome (codec.decode (.union members (some discriminator)) wire)
          (codec.decode (.union members none) wire)) ↔
            ∀ wire value, codec.decode (.union members none) wire = .ok value →
              codec.decode (.union members (some discriminator)) wire = .ok value) := by
  refine ⟨fun apart wire => (sameOutcome_iff settled).mpr fun value success => ?_,
    tagsApart_iff_routes inferred strict, forall_congr' fun wire => sameOutcome_iff settled⟩
  rw [decode_eq_ok_iff] at success ⊢
  exact decodes_discriminated_of_decodes_union inferred strict apart success

end

/-! ## Tags of several kinds -/

theorem settled_pinning (field : String) (literal : Literal) (types : TypeRegistry) :
    (Node.pinning field literal).Everywhere (Settled types) := by
  refine .intro trivial fun child inside => ?_
  obtain rfl := List.mem_singleton.mp inside
  exact .leaf trivial rfl

/-- Structs with a single pinned property have the tags that they pin. -/
theorem tagsApart_pinning {field : String} {literals : List Literal}
    (nonzero : ∀ double, .float double ∈ literals → double.numEq (.zero false) = false)
    (distinct : ∀ integer double, .int integer ∈ literals → .float double ∈ literals →
      (Binary64.ofInt integer.toInt).numEq double = false) :
    TagsApart (literals.map (Node.pinning field)) field := by
  have tag {member : Node} (among : member ∈ literals.map (Node.pinning field))
      {property : Property Node} {literal : Literal} (pins : member.Pins field property literal) :
      literal ∈ literals ∧ property = Node.required field (.literal literal) := by
    obtain ⟨own, listed, rfl⟩ := List.mem_map.mp among
    obtain ⟨rfl, rfl⟩ := pins.unique (Node.pins_pinning field own)
    exact ⟨listed, rfl⟩
  constructor
  · intro member among property literal pins
    obtain ⟨-, rfl⟩ := tag among pins
    rfl
  · intro member among property double pins
    exact nonzero double (tag among pins).1
  · intro member among other among' property property' integer double pins pins'
    exact distinct integer double (tag among pins).1 (tag among' pins').1

/-- Tags of three kinds. -/
def variants : List Literal :=
  [.int 2, .float .one, .string "2"]

/-- The discriminator that is inferred for structs with these tags. -/
def variantTags : Discriminator :=
  { field := "t", arms := [("\"2\"", 2), ("1.0", 1), ("2", 0)] }

/-- Tags of three kinds are dispatched as they are tried. -/
theorem dispatch_agrees_on_variants :
    TagsApart (variants.map (Node.pinning "t")) "t" ∧ ∀ wire,
      SameOutcome
        (({ types := {} } : Codec).decode
          (.union (variants.map (Node.pinning "t")) (some variantTags)) wire)
        (({ types := {} } : Codec).decode
          (.union (variants.map (Node.pinning "t")) none) wire) := by
  have inferred : Discriminator.infer? (variants.map (Node.pinning "t")) = some variantTags := by
    decide +kernel
  have settled : ∀ member ∈ variants.map (Node.pinning "t"), member.Everywhere (Settled {}) := by
    intro member among
    obtain ⟨literal, _, rfl⟩ := List.mem_map.mp among
    exact settled_pinning "t" literal {}
  have apart : TagsApart (variants.map (Node.pinning "t")) "t" := by
    apply tagsApart_pinning
    · intro double listed
      simp only [variants, List.mem_cons, reduceCtorEq, Literal.float.injEq, List.not_mem_nil,
        or_false, false_or] at listed
      rw [listed]
      decide
    · intro integer double listed listed'
      simp only [variants, List.mem_cons, reduceCtorEq, Literal.int.injEq, Literal.float.injEq,
        List.not_mem_nil, or_false, false_or] at listed listed'
      rw [listed, listed']
      decide +kernel
  have agrees := @dispatch_agrees_with_trial { types := {} } _ _ inferred settled rfl
  exact ⟨apart, agrees.1 apart⟩

/-- The doubles zero and one as tags. -/
def doubles : List Node :=
  [.pinning "t" (.float (.zero false)), .pinning "t" (.float .one)]

def doubleTags : Discriminator :=
  { field := "t", arms := [("0.0", 0), ("1.0", 1)] }

def negativeZero : Json :=
  .object [("t", .number (.float (.zero true) rfl))]

/-- A negative zero is equal to the first tag and has another text: trial takes it, and dispatch
does not. -/
theorem negative_zero_undispatched :
    Discriminator.infer? doubles = some doubleTags ∧
      (∀ member ∈ doubles, member.Everywhere (Settled {})) ∧
        ({ types := {} } : Codec).decode (.union doubles none) negativeZero =
            .ok (.map [("t", .float (.zero false))]) ∧
          ∃ failure, ({ types := {} } : Codec).decode (.union doubles (some doubleTags))
            negativeZero = .error (.invalid failure) := by
  have settled : ∀ member ∈ doubles, member.Everywhere (Settled {}) := by
    intro member among
    rcases List.mem_pair.mp among with rfl | rfl
    · exact settled_pinning _ _ _
    · exact settled_pinning _ _ _
  have dispatched : (Node.union doubles (some doubleTags)).Everywhere (Settled {}) :=
    .intro trivial settled
  have tried : ({ types := {} } : Codec).Decodes (125 + 1 + 1 + 1) (.union doubles none)
      negativeZero (.map [("t", .float (.zero false))]) :=
    decodes_union_iff.mpr ⟨[], _, _, rfl, by simp, decodes_pinning rfl rfl⟩
  have undispatched (value : Value) :
      ¬ ({ types := {} } : Codec).Decodes (127 + 1) (.union doubles (some doubleTags))
        negativeZero value := by
    intro taken
    rw [negativeZero] at taken
    obtain ⟨_, tag, arm, _, same, found, selected, _⟩ := decodes_discriminated_iff.mp taken
    cases same
    cases found
    cases selected
  refine ⟨by decide +kernel, settled, decode_eq_ok_iff.mpr tried, ?_⟩
  rcases @decode_ok_or_invalid { types := {} } negativeZero _ dispatched with
    ⟨value, success⟩ | refused
  · exact absurd (decode_eq_ok_iff.mp success) (undispatched value)
  · exact refused

end Codec

end Schemata
