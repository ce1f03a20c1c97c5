import Schemata.Node.Discriminator
import Schemata.Proofs.Dictionary
import Schemata.Proofs.Node.Shape

/-!
# Pinned properties

A struct pins a property when it requires it to be a literal.  A discriminator that is inferred for
some members selects by a property that all of them pin, each to a text on the wire of its own.
-/

namespace Schemata

open List (Forall₂)

namespace Node

/-- The property under a name of the struct at the root of a node is required and a literal. -/
structure Pins (node : Node) (field : String) (property : Property Node) (literal : Literal) :
    Prop where
  root : ∃ kind properties, node.struct? = some (kind, properties) ∧
    properties.find? (fun other => other.name == field) = some property
  required : property.optional = false
  pinned : property.node.unwrapped = .literal literal

/-- A struct has one property under a name, and pins it to one literal. -/
theorem Pins.unique {node : Node} {field : String} {property property' : Property Node}
    {literal literal' : Literal} (pins : node.Pins field property literal)
    (pins' : node.Pins field property' literal') : property = property' ∧ literal = literal' := by
  obtain ⟨⟨_, _, struct, found⟩, _, pinned⟩ := pins
  obtain ⟨⟨_, _, struct', found'⟩, _, pinned'⟩ := pins'
  obtain ⟨rfl, rfl⟩ := Prod.mk.inj (Option.some.inj (struct.symm.trans struct'))
  obtain rfl := Option.some.inj (found.symm.trans found')
  exact ⟨rfl, Node.literal.inj (pinned.symm.trans pinned')⟩

/-- A property that is required in both directions. -/
def required (name : String) (node : Node) : Property Node :=
  { name, node, optional := false, direction := .both }

/-- The struct that pins one property and has no other. -/
def pinning (field : String) (literal : Literal) : Node :=
  .struct .array [required field (.literal literal)]

theorem pins_pinning (field : String) (literal : Literal) :
    (pinning field literal).Pins field (required field (.literal literal)) literal where
  root := ⟨.array, _, rfl, by simp [required]⟩
  required := rfl
  pinned := rfl

end Node

namespace Discriminator

variable {field key : String} {properties : List (Property Node)}

theorem literalKey?_eq_some_iff :
    literalKey? field properties = some key ↔
      ∃ property literal, properties.find? (fun other => other.name == field) = some property ∧
        property.optional = false ∧ property.node.unwrapped = .literal literal ∧
          literal.wireKey = key := by
  unfold literalKey?
  cases properties.find? fun other => other.name == field with
  | none => simp
  | some property =>
      obtain ⟨name, node, optional, direction⟩ := property
      cases optional with
      | true => simp
      | false => cases unwrapped : node.unwrapped <;> simp [unwrapped]

/-- The arms are those found before, and one for every struct under the text of its literal. -/
theorem get?_armsOf?_iff {start arm : Nat} {arms result : List (String × Nat)}
    {structs : List (List (Property Node))}
    (success : armsOf? field start arms structs = some result) :
    Dict.get? result key = some arm ↔ Dict.get? arms key = some arm ∨
      ∃ place properties, arm = start + place ∧ structs[place]? = some properties ∧
        literalKey? field properties = some key := by
  induction structs generalizing start arms with
  | nil =>
      obtain rfl := Option.some.inj success
      simp
  | cons properties rest ih =>
      obtain ⟨own, pinned, success⟩ := Option.bind_eq_some_iff.mp success
      split at success
      · cases success
      next new =>
      rw [ih success, Dict.get?_insert]
      constructor
      · rintro (found | ⟨place, others, rfl, among, found⟩)
        · split at found
          next same =>
            cases found
            exact Or.inr ⟨0, properties, rfl, rfl, same ▸ pinned⟩
          · exact Or.inl found
        · exact Or.inr ⟨place + 1, others, by omega, among, found⟩
      · rintro (found | ⟨place, others, rfl, among, found⟩)
        · left
          rw [if_neg, found]
          rintro rfl
          rw [Dict.contains_eq_isSome, found] at new
          exact new rfl
        · cases place with
          | zero =>
              obtain rfl := Option.some.inj among
              obtain rfl := Option.some.inj (pinned.symm.trans found)
              exact Or.inl (if_pos rfl)
          | succ place => exact Or.inr ⟨place, others, by omega, among, found⟩

/-- Every struct has a literal of its own. -/
theorem literalKey?_of_armsOf? {start : Nat} {arms result : List (String × Nat)}
    {structs : List (List (Property Node))}
    (success : armsOf? field start arms structs = some result) :
    ∀ properties ∈ structs, ∃ key, literalKey? field properties = some key := by
  induction structs generalizing start arms with
  | nil => exact fun _ nothing => nomatch nothing
  | cons properties rest ih =>
      obtain ⟨own, pinned, success⟩ := Option.bind_eq_some_iff.mp success
      split at success
      · cases success
      · exact List.forall_mem_cons.mpr ⟨⟨own, pinned⟩, ih success⟩

theorem armsOf?_of_firstOf? {structs : List (List (Property Node))} {names : List String}
    {discriminator : Discriminator} (success : firstOf? structs names = some discriminator) :
    armsOf? discriminator.field 0 [] structs = some discriminator.arms := by
  induction names with
  | nil => cases success
  | cons name rest ih =>
      unfold firstOf? at success
      split at success
      next arms found =>
        cases success
        exact found
      · exact ih success

theorem mapM_eq_some_iff {α β : Type} {change : α → Option β} {items : List α} {results : List β} :
    items.mapM change = some results ↔
      Forall₂ (fun item result => change item = some result) items results := by
  induction items generalizing results with
  | nil =>
      rw [List.mapM_nil, List.forall₂_nil_left_iff]
      exact ⟨fun same => (Option.some.inj same).symm, fun same => congrArg _ same.symm⟩
  | cons item rest ih =>
      simp only [List.mapM_cons, Option.bind_eq_bind, Option.bind_eq_some_iff, ih,
        List.forall₂_cons_left_iff]
      constructor
      · rintro ⟨result, here, others, inside, same⟩
        exact ⟨result, others, here, inside, (Option.some.inj same).symm⟩
      · rintro ⟨result, others, here, inside, rfl⟩
        exact ⟨result, here, others, inside, rfl⟩

variable {members : List Node} {discriminator : Discriminator}

/-- Inference searches two or more structs of one kind, along the names in the first of them. -/
theorem infer?_eq_some_iff :
    infer? members = some discriminator ↔ 2 ≤ members.length ∧ ∃ kind first others,
      Forall₂ (fun member properties => member.struct? = some (kind, properties)) members
        (first :: others) ∧
      firstOf? (first :: others) (first.map Property.name) = some discriminator := by
  constructor
  · intro inferred
    unfold infer? at inferred
    split at inferred
    · cases inferred
    next several =>
    split at inferred
    · cases inferred
    · cases inferred
    next kind first others structs =>
    split at inferred
    · cases inferred
    next alike =>
    have kinds : ∀ struct ∈ (kind, first) :: others, struct.1 = kind := by
      refine List.forall_mem_cons.mpr ⟨rfl, fun struct among => ?_⟩
      by_contra differs
      exact alike (List.any_eq_true.mpr ⟨struct, among, by simpa using differs⟩)
    have related : Forall₂ (fun member struct => member.struct? = some (kind, struct.2)) members
        ((kind, first) :: others) := by
      have roots := mapM_eq_some_iff.mp structs
      rw [List.forall₂_iff_zip] at roots ⊢
      refine ⟨roots.1, fun {member struct} pair => ?_⟩
      rw [← kinds struct (List.of_mem_zip pair).2]
      exact roots.2 pair
    refine ⟨by omega, kind, first, others.map Prod.snd, ?_, inferred⟩
    rwa [← List.map_cons (f := Prod.snd) (a := (kind, first)), List.forall₂_map_right_iff]
  · rintro ⟨several, kind, first, others, related, found⟩
    have structs : members.mapM Node.struct? = some ((first :: others).map (kind, ·)) := by
      rw [mapM_eq_some_iff, List.forall₂_map_right_iff]
      exact related
    rw [infer?, if_neg (by omega), structs]
    simpa [Function.comp_def] using found

/-- A discriminator that is inferred has the arms of the structs at the roots of the members. -/
theorem structs_of_infer? (inferred : infer? members = some discriminator) :
    ∃ kind structs,
      Forall₂ (fun member properties => member.struct? = some (kind, properties)) members structs ∧
      armsOf? discriminator.field 0 [] structs = some discriminator.arms := by
  obtain ⟨_, kind, first, others, related, found⟩ := infer?_eq_some_iff.mp inferred
  exact ⟨kind, first :: others, related, armsOf?_of_firstOf? found⟩

/-- The arms of a discriminator that is inferred are the members, each under the text of the literal
that it pins. -/
theorem get?_arms_iff (inferred : infer? members = some discriminator) {key : String} {arm : Nat} :
    Dict.get? discriminator.arms key = some arm ↔
      ∃ member property literal, members[arm]? = some member ∧
        member.Pins discriminator.field property literal ∧ literal.wireKey = key := by
  obtain ⟨kind, structs, related, success⟩ := structs_of_infer? inferred
  rw [get?_armsOf?_iff success]
  constructor
  · rintro (absurd | ⟨place, properties, rfl, among, pinned⟩)
    · cases absurd
    · obtain ⟨property, literal, found, required, pinned, same⟩ :=
        literalKey?_eq_some_iff.mp pinned
      have pair := forall₂_getElem? related place
      rw [among] at pair
      rw [Nat.zero_add]
      generalize members[place]? = member at pair
      cases pair with
      | some root =>
          exact ⟨_, property, literal, rfl, ⟨⟨_, _, root, found⟩, required, pinned⟩, same⟩
  · rintro ⟨member, property, literal, present, ⟨⟨kind, properties, root, found⟩, required, pinned⟩,
      same⟩
    refine Or.inr ⟨arm, properties, (Nat.zero_add arm).symm, ?_,
      literalKey?_eq_some_iff.mpr ⟨property, literal, found, required, pinned, same⟩⟩
    have pair := forall₂_getElem? related arm
    rw [present] at pair
    generalize structs[arm]? = struct at pair
    cases pair with
    | some root' =>
        obtain ⟨-, rfl⟩ := Prod.mk.inj (Option.some.inj (root.symm.trans root'))
        rfl

theorem armFor?_of_key {tag : Json} {arm : Nat}
    (known : Dict.get? discriminator.arms tag.compact = some arm) :
    discriminator.armFor? tag = some arm := by
  unfold armFor?
  split
  next found =>
    rw [← found, known]
  next missing =>
    rw [known] at missing
    cases missing

/-- An arm is selected by a text that it stands under. -/
theorem exists_key_of_armFor? {tag : Json} {arm : Nat}
    (selected : discriminator.armFor? tag = some arm) :
    ∃ key, Dict.get? discriminator.arms key = some arm := by
  unfold armFor? at selected
  split at selected
  next found =>
    cases selected
    exact ⟨_, found⟩
  · split at selected
    · exact ⟨_, selected⟩
    · cases selected

/-- Beside every member there is another one. -/
theorem exists_other_member (inferred : infer? members = some discriminator) (arm : Nat) :
    ∃ other member, members[other]? = some member ∧ other ≠ arm := by
  have two : 2 ≤ members.length := (infer?_eq_some_iff.mp inferred).1
  rcases Nat.eq_zero_or_pos arm with rfl | positive
  · exact ⟨1, members[1], List.getElem?_eq_getElem (by omega), by decide⟩
  · exact ⟨0, members[0], List.getElem?_eq_getElem (by omega), by omega⟩

/-- Every member pins the field. -/
theorem exists_pins (inferred : infer? members = some discriminator) {member : Node}
    (among : member ∈ members) :
    ∃ property literal, member.Pins discriminator.field property literal := by
  obtain ⟨kind, structs, related, success⟩ := structs_of_infer? inferred
  obtain ⟨properties, also, root⟩ := exists_mem_left_of_forall₂ related.flip among
  obtain ⟨key, pinned⟩ := literalKey?_of_armsOf? success properties also
  obtain ⟨property, literal, found, required, pinned, _⟩ := literalKey?_eq_some_iff.mp pinned
  exact ⟨property, literal, ⟨kind, properties, root, found⟩, required, pinned⟩

end Discriminator

end Schemata
