import Schemata.Proofs.Codec.Scalars
import Schemata.Proofs.Codec.Success
import Schemata.Proofs.Node.WellFormed

/-!
# Inferred discriminators

A discriminator is inferred for exactly those structs of one kind that some property of the first
one tells apart, and it goes by the first such property.  Whatever is encoded along the literal of a
member selects that member.
-/

namespace Schemata

open List (Forall₂)

namespace Discriminator

variable {members : List Node} {discriminator : Discriminator} {field : String}

/-! ## What inference looks for -/

/-- The members are structs of one kind, the first of them with some properties. -/
def OfOneKind (members : List Node) (first : List (Property Node)) : Prop :=
  ∃ kind, (∃ member, members.head? = some member ∧ member.struct? = some (kind, first)) ∧
    ∀ member ∈ members, ∃ properties, member.struct? = some (kind, properties)

/-- Every member pins the field, each to a literal with a text of its own on the wire. -/
def TellsApart (members : List Node) (field : String) : Prop :=
  ∃ literals : List Literal,
    Forall₂ (fun member literal => ∃ property, member.Pins field property literal) members
      literals ∧ (literals.map Literal.wireKey).Nodup

/-- Of some names in order, the field is the first that tells the members apart. -/
def IsFirstTelling (members : List Node) (names : List String) (field : String) : Prop :=
  ∃ before after, names = before ++ field :: after ∧ TellsApart members field ∧
    ∀ name ∈ before, ¬ TellsApart members name

theorem literalKey?_iff_pins {member : Node} {kind : StructKind} {properties : List (Property Node)}
    (root : member.struct? = some (kind, properties)) {key : String} :
    literalKey? field properties = some key ↔
      ∃ literal, (∃ property, member.Pins field property literal) ∧ literal.wireKey = key := by
  rw [literalKey?_eq_some_iff]
  constructor
  · rintro ⟨property, literal, found, required, pinned, same⟩
    exact ⟨literal, ⟨property, ⟨kind, properties, root, found⟩, required, pinned⟩, same⟩
  · rintro ⟨literal, ⟨property, ⟨_, _, root', found⟩, required, pinned⟩, same⟩
    obtain ⟨-, rfl⟩ := Prod.mk.inj (Option.some.inj (root.symm.trans root'))
    exact ⟨property, literal, found, required, pinned, same⟩

/-! ## The search -/

/-- The arms can be filled in when every struct has a key, and the keys are new and distinct. -/
theorem exists_armsOf?_iff {start : Nat} {arms : List (String × Nat)}
    {structs : List (List (Property Node))} :
    (∃ result, armsOf? field start arms structs = some result) ↔
      ∃ keys, Forall₂ (fun properties key => literalKey? field properties = some key) structs keys ∧
        keys.Nodup ∧ ∀ key ∈ keys, Dict.get? arms key = none := by
  induction structs generalizing start arms with
  | nil => exact ⟨fun _ => ⟨[], .nil, List.nodup_nil, by simp⟩, fun _ => ⟨arms, rfl⟩⟩
  | cons properties rest ih =>
      constructor
      · rintro ⟨result, success⟩
        obtain ⟨own, pinned, success⟩ := Option.bind_eq_some_iff.mp success
        split at success
        · cases success
        next new =>
        obtain ⟨keys, keyed, distinct, unused⟩ := ih.mp ⟨result, success⟩
        have apart : ∀ key ∈ keys, key ≠ own ∧ Dict.get? arms key = none := by
          intro key among
          have free := unused key among
          rw [Dict.get?_insert] at free
          split at free
          · cases free
          next differs => exact ⟨differs, free⟩
        refine ⟨own :: keys, .cons pinned keyed, List.nodup_cons.mpr ⟨fun again => ?_, distinct⟩, ?_⟩
        · exact (apart own again).1 rfl
        · refine List.forall_mem_cons.mpr ⟨?_, fun key among => (apart key among).2⟩
          simpa [Dict.contains_eq_isSome] using new
      · rintro ⟨keys, keyed, distinct, unused⟩
        cases keyed with
        | @cons _ own _ keys pinned keyed =>
            obtain ⟨fresh, distinct⟩ := List.nodup_cons.mp distinct
            obtain ⟨free, unused⟩ := List.forall_mem_cons.mp unused
            have later : ∀ key ∈ keys, Dict.get? (Dict.insert arms own start) key = none := by
              intro key among
              have differs : key ≠ own := fun same => fresh (same ▸ among)
              rw [Dict.get?_insert, if_neg differs, unused key among]
            obtain ⟨result, success⟩ := ih.mpr ⟨keys, keyed, distinct, later⟩
            refine ⟨result, Option.bind_eq_some_iff.mpr ⟨own, pinned, ?_⟩⟩
            rwa [if_neg (by simp [Dict.contains_eq_isSome, free])]

theorem firstOf?_eq_findSome? (structs : List (List (Property Node))) (names : List String) :
    firstOf? structs names =
      names.findSome? fun field =>
        (armsOf? field 0 [] structs).map fun arms => { field, arms } := by
  induction names with
  | nil => rfl
  | cons field rest ih =>
      rw [firstOf?, List.findSome?_cons, ih]
      cases armsOf? field 0 [] structs <;> rfl

/-- Values that are each made from something are all made from some list. -/
theorem exists_forall₂_map {α β γ : Type} {related : α → β → Prop} {make : β → γ} {items : List α}
    {results : List γ}
    (each : Forall₂ (fun item result => ∃ source, related item source ∧ make source = result)
      items results) : ∃ sources, Forall₂ related items sources ∧ sources.map make = results := by
  induction each with
  | nil => exact ⟨[], .nil, rfl⟩
  | cons here _ ih =>
      obtain ⟨source, found, rfl⟩ := here
      obtain ⟨sources, others, rfl⟩ := ih
      exact ⟨source :: sources, .cons found others, rfl⟩

section

variable {kind : StructKind} {structs : List (List (Property Node))}
  (related : Forall₂ (fun member properties => member.struct? = some (kind, properties)) members
    structs)
include related

/-- The arms of a field can be filled in exactly when the field tells the members apart. -/
theorem tellsApart_iff :
    TellsApart members field ↔ ∃ arms, armsOf? field 0 [] structs = some arms := by
  rw [exists_armsOf?_iff]
  constructor
  · rintro ⟨literals, pins, distinct⟩
    refine ⟨literals.map Literal.wireKey, ?_, distinct, fun _ _ => rfl⟩
    rw [List.forall₂_map_right_iff]
    refine (forall₂_comp related.flip pins).imp fun properties literal pair => ?_
    obtain ⟨member, root, pinned⟩ := pair
    exact (literalKey?_iff_pins root).mpr ⟨literal, pinned, rfl⟩
  · rintro ⟨keys, keyed, distinct, -⟩
    have each := (forall₂_comp related keyed).imp fun member key pair =>
      (literalKey?_iff_pins pair.choose_spec.1).mp pair.choose_spec.2
    obtain ⟨literals, pins, rfl⟩ := exists_forall₂_map each
    exact ⟨literals, pins, distinct⟩

/-- The search finds the first name that tells the members apart, if there is one. -/
theorem firstOf?_eq_some_iff {names : List String} :
    firstOf? structs names = some discriminator ↔
      IsFirstTelling members names discriminator.field ∧
        armsOf? discriminator.field 0 [] structs = some discriminator.arms := by
  have untold {name : String} : (armsOf? name 0 [] structs).map (Discriminator.mk name) = none ↔
      ¬ TellsApart members name := by
    rw [tellsApart_iff related, Option.map_eq_none_iff, Option.eq_none_iff_forall_ne_some,
      not_exists]
  rw [firstOf?_eq_findSome?, List.findSome?_eq_some_iff]
  constructor
  · rintro ⟨before, name, after, split, found, earlier⟩
    obtain ⟨arms, filled, rfl⟩ := Option.map_eq_some_iff.mp found
    refine ⟨⟨before, after, split, (tellsApart_iff related).mpr ⟨arms, filled⟩, ?_⟩, filled⟩
    exact fun other among => untold.mp (earlier other among)
  · rintro ⟨⟨before, after, split, _, earlier⟩, filled⟩
    refine ⟨before, discriminator.field, after, split, ?_, ?_⟩
    · rw [filled]
      rfl
    · exact fun other among => untold.mpr (earlier other among)

end

/-- The structs of members of one kind, from the first on. -/
theorem exists_structs {first : List (Property Node)} (alike : OfOneKind members first) :
    ∃ kind others, Forall₂ (fun member properties => member.struct? = some (kind, properties))
      members (first :: others) := by
  obtain ⟨kind, ⟨head, leading, root⟩, each⟩ := alike
  cases members with
  | nil => cases leading
  | cons member rest =>
      obtain rfl := Option.some.inj leading
      have roots : Forall₂ (fun member found => ∃ properties,
          member.struct? = some (kind, properties) ∧ some properties = found) rest
          (rest.map fun member => member.struct?.map Prod.snd) := by
        rw [List.forall₂_map_right_iff, List.forall₂_same]
        intro other among
        obtain ⟨properties, root⟩ := each other (List.mem_cons_of_mem _ among)
        exact ⟨properties, root, by rw [root]; rfl⟩
      obtain ⟨others, related, -⟩ := exists_forall₂_map roots
      exact ⟨kind, others, .cons root related⟩

/-- A discriminator is inferred with the first field that tells the members apart. -/
theorem infer?_field (inferred : infer? members = some discriminator) :
    ∃ first, OfOneKind members first ∧
      IsFirstTelling members (first.map Property.name) discriminator.field := by
  obtain ⟨_, kind, first, others, related, found⟩ := infer?_eq_some_iff.mp inferred
  have each : ∀ member ∈ members, ∃ properties, member.struct? = some (kind, properties) := by
    intro member among
    obtain ⟨properties, _, root⟩ := exists_mem_left_of_forall₂ related.flip among
    exact ⟨properties, root⟩
  have leading : ∃ member, members.head? = some member ∧ member.struct? = some (kind, first) := by
    cases related with
    | cons root _ => exact ⟨_, rfl, root⟩
  exact ⟨first, ⟨kind, leading, each⟩, ((firstOf?_eq_some_iff related).mp found).1⟩

/-- A discriminator is inferred for two or more structs of one kind that some property of the first
one tells apart. -/
theorem exists_infer?_iff :
    (∃ discriminator, infer? members = some discriminator) ↔
      2 ≤ members.length ∧ ∃ first, OfOneKind members first ∧
        ∃ property ∈ first, TellsApart members property.name := by
  constructor
  · rintro ⟨discriminator, inferred⟩
    obtain ⟨first, alike, before, after, split, tells, _⟩ := infer?_field inferred
    have among : discriminator.field ∈ first.map Property.name := by
      rw [split]
      exact List.mem_append_right _ List.mem_cons_self
    obtain ⟨property, listed, name⟩ := List.mem_map.mp among
    exact ⟨(infer?_eq_some_iff.mp inferred).1, first, alike, property, listed, name ▸ tells⟩
  · rintro ⟨several, first, alike, property, listed, tells⟩
    obtain ⟨kind, others, related⟩ := exists_structs alike
    obtain ⟨arms, filled⟩ := (tellsApart_iff related).mp tells
    have found : (firstOf? (first :: others) (first.map Property.name)).isSome = true := by
      rw [firstOf?_eq_findSome?, List.findSome?_isSome_iff]
      exact ⟨property.name, List.mem_map_of_mem listed, by rw [filled]; rfl⟩
    obtain ⟨discriminator, found⟩ := Option.isSome_iff_exists.mp found
    exact ⟨discriminator, infer?_eq_some_iff.mpr ⟨several, kind, first, others, related, found⟩⟩

end Discriminator

namespace Codec

variable {codec : Codec} {levels : Nat} {literal : Literal} {value : Value} {wire : Json}

/-- Along a literal under constraints and labels, only the data of the literal is written. -/
theorem toJson_of_encodes {node : Node} (pinned : node.unwrapped = .literal literal)
    (encoded : codec.Encodes levels node value wire) : wire = literal.toJson := by
  induction levels generalizing node with
  | zero => exact absurd encoded not_encodes_zero
  | succ levels ih =>
      cases node with
      | literal =>
          obtain rfl := Node.literal.inj pinned
          exact (encodes_literal_iff.mp encoded).2
      | constrained inner validators =>
          have inside : inner.unwrapped = .literal literal := pinned
          exact ih inside (encodes_constrained_iff.mp encoded).1
      | named inner name =>
          have inside : inner.unwrapped = .literal literal := pinned
          exact ih inside (encodes_named_iff.mp encoded)
      | _ => cases pinned

theorem encode_literal_eq_ok_iff :
    codec.encode (.literal literal) value = .ok wire ↔
      0 < codec.options.maxDepth ∧ isLiteralValue literal value = true ∧
        wire = literal.toJson := by
  rw [encode_eq_ok_iff]
  cases codec.options.maxDepth with
  | zero => exact iff_of_false not_encodes_zero fun both => absurd both.1 (Nat.lt_irrefl 0)
  | succ levels => exact encodes_literal_iff.trans (and_iff_right (Nat.succ_pos levels)).symm

end Codec

namespace Discriminator

variable {members : List Node} {discriminator : Discriminator}

/-- The arm of a member is found under the text of its literal, and by whatever is encoded along the
literal. -/
theorem selects_of_pins (inferred : infer? members = some discriminator) {arm : Nat} {member : Node}
    (present : members[arm]? = some member) {property : Property Node} {literal : Literal}
    (pins : member.Pins discriminator.field property literal) :
    Dict.get? discriminator.arms literal.wireKey = some arm ∧
      ∀ (codec : Codec) (node : Node) (value : Value) (wire : Json),
        node.unwrapped = .literal literal → codec.encode node value = .ok wire →
          discriminator.armFor? wire = some arm := by
  have key : Dict.get? discriminator.arms literal.wireKey = some arm :=
    (get?_arms_iff inferred).mpr ⟨member, property, literal, present, pins, rfl⟩
  refine ⟨key, fun codec node value wire pinned encoded => ?_⟩
  obtain rfl := Codec.toJson_of_encodes pinned (Codec.encode_eq_ok_iff.mp encoded)
  exact armFor?_of_key key

/-- A discriminator is inferred for exactly those members that some property of the first one tells
apart.  It goes by the first such property, its keys and the members correspond one to one, and what
is encoded along the literal of a member is sent to that member; the value of a literal that is
equal to itself is so encoded. -/
theorem infer?_exact (members : List Node) :
    ((∃ discriminator, infer? members = some discriminator) ↔
      2 ≤ members.length ∧ ∃ first, OfOneKind members first ∧
        ∃ property ∈ first, TellsApart members property.name) ∧
    ∀ discriminator, infer? members = some discriminator →
      (∃ first, OfOneKind members first ∧
        IsFirstTelling members (first.map Property.name) discriminator.field) ∧
      discriminator.Separates members ∧
      ∀ (arm : Nat) (member : Node), members[arm]? = some member →
        ∃ property literal, member.Pins discriminator.field property literal ∧
          Dict.get? discriminator.arms literal.wireKey = some arm ∧
          (∀ (codec : Codec) (node : Node) (value : Value) (wire : Json),
            node.unwrapped = .literal literal → codec.encode node value = .ok wire →
              discriminator.armFor? wire = some arm) ∧
          ∀ codec : Codec, 0 < codec.options.maxDepth → literal.isEqual literal = true →
            codec.encode (.literal literal) literal.toValue = .ok literal.toJson := by
  refine ⟨exists_infer?_iff, fun discriminator inferred => ?_⟩
  refine ⟨infer?_field inferred, separates_of_infer? inferred, fun arm member present => ?_⟩
  obtain ⟨property, literal, pins⟩ := exists_pins inferred (List.mem_of_getElem? present)
  obtain ⟨key, sent⟩ := selects_of_pins inferred present pins
  refine ⟨property, literal, pins, key, sent, fun codec deep itself => ?_⟩
  have stands : Codec.isLiteralValue literal literal.toValue = true := by
    cases literal with
    | float value => exact itself
    | bool | int | string | enumCase => simp [Codec.isLiteralValue, Literal.toValue]
  exact Codec.encode_literal_eq_ok_iff.mpr ⟨deep, stands, rfl⟩

/-- Structs that pin an integer, a double and a text under one name are told apart by it. -/
theorem infer?_exact_pinned :
    let members := [Literal.int 2, .float .one, .string "2"].map (Node.pinning "t")
    let discriminator : Discriminator :=
      { field := "t", arms := [("\"2\"", 2), ("1.0", 1), ("2", 0)] }
    infer? members = some discriminator ∧ discriminator.Separates members ∧
      TellsApart members "t" := by
  intro members discriminator
  have inferred : infer? members = some discriminator := by decide +kernel
  obtain ⟨⟨first, _, _, _, _, tells, _⟩, separates, _⟩ :=
    (infer?_exact members).2 discriminator inferred
  exact ⟨inferred, separates, tells⟩

end Discriminator

end Schemata
