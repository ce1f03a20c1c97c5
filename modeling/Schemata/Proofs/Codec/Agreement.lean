import Schemata.Proofs.Codec.Congruence
import Schemata.Proofs.Codec.Outline

/-!
# Agreement along nodes of one shape

Two nodes of one shape whose children are walked with agreement are walked with agreement
themselves.  Problems may describe the two by different texts, so their outlines are the same and
their details are not.
-/

namespace Schemata.Codec

open List (Forall₂)
open Walk

variable {codec : Codec} {α β : Type} {node other : Node}

/-- Walks along the one node agree with walks along the other, on everything. -/
def AgreeAlong (walk walk' : Node → β → Walk α) (node other : Node) : Prop :=
  ∀ value, Agree (walk node value) (walk' other value)

theorem agree_invalidType (node other : Node) (actual : String) :
    Agree (codec.invalidType node actual : Walk α) (codec.invalidType other actual) :=
  .fail rfl

theorem agree_fieldsOf (hosted : HostInstance) :
    Agree (codec.fieldsOf hosted) (codec.fieldsOf hosted) := by
  refine (regular_hostClass _).agree.bind fun found => ?_
  cases found.flatten hosted with
  | ok fields => exact .pure _
  | error message => exact (Agree.report rfl).bind fun _ => .pure _

theorem agree_entriesOf (value : Value) :
    Agree (codec.entriesOf value) (codec.entriesOf value) := by
  cases value with
  | host className fields => exact agree_fieldsOf _
  | _ => exact .pure _

section

variable {walk walk' : Node → β → Walk α}

theorem agree_items_of (item : AgreeAlong walk walk' node other) (values : List β) :
    Agree (items (walk node) 0 values) (items (walk' other) 0 values) :=
  agree_items 0 (List.forall₂_same.mpr fun value _ => item value)

theorem agree_firstOf_of {members others : List Node}
    (pairwise : Forall₂ (AgreeAlong walk walk') members others) (value : β) :
    Agree (firstOf (walk · value) members) (firstOf (walk' · value) others) :=
  agree_firstOf (pairwise.imp fun _ _ here => here value)

/-- The properties of a side agree when all of them do. -/
theorem agree_properties_of {properties others : List (Property Node)} {side : Direction → Bool}
    (pairwise : Forall₂ (Property.Related (AgreeAlong walk walk')) properties others)
    (members : Dict β) :
    Agree (Walk.properties walk members (properties.filter (side ·.direction)))
      (Walk.properties walk' members (others.filter (side ·.direction))) := by
  refine agree_properties members (List.rel_filter (fun _ _ same => ?_) pairwise)
  simp [same.direction]

end

/-! ## Decoding -/

section

variable {child child' : Node → Json → Walk Value} {members others : List Node}

theorem agree_decodeFirst (pairwise : Forall₂ (AgreeAlong child child') members others)
    (node other : Node) (wire : Json) :
    Agree (codec.decodeFirst child node members wire)
      (codec.decodeFirst child' other others wire) := by
  refine (agree_firstOf_of pairwise wire).bind fun found => ?_
  cases found with
  | some value => exact .pure _
  | none => exact .fail rfl

theorem agree_decodeArm (pairwise : Forall₂ (AgreeAlong child child') members others)
    (node other : Node) (discriminator : Discriminator) (wire : Json) :
    Agree (codec.decodeArm child node members discriminator wire)
      (codec.decodeArm child' other others discriminator wire) := by
  cases wire with
  | object entries =>
      simp only [decodeArm]
      cases Dict.get? entries discriminator.field with
      | none => exact .within (.fail rfl) _
      | some tag =>
          dsimp only
          cases discriminator.armFor? tag with
          | none => exact .within (.fail rfl) _
          | some arm =>
              dsimp only [Option.bind_some]
              have found := forall₂_getElem? pairwise arm
              generalize members[arm]? = here, others[arm]? = there at found ⊢
              cases found with
              | some agree => exact agree _
              | none => exact .within (.fail rfl) _
  | null | bool | number | string | array => exact agree_invalidType _ _ _

theorem agree_decodeMembers (pairwise : Forall₂ (AgreeAlong child child') members others)
    (wire : Json) (merged : Dict Value) :
    Agree (codec.decodeMembers child wire merged members)
      (codec.decodeMembers child' wire merged others) := by
  induction pairwise generalizing merged with
  | nil => exact .pure _
  | cons here _ ih =>
      refine (here wire).bind fun value => (agree_entriesOf value).bind fun found => ?_
      cases found with
      | some entries => exact ih _
      | none => exact agree_invalidType _ _ _

/-- What a class builds does not depend on the node that the value was read along. -/
theorem agree_build (inner other : Node) (target : String) (strategy : CastingStrategy)
    (value : Value) :
    Agree (codec.build inner target strategy value) (codec.build other target strategy value) := by
  refine (regular_hostClass _).agree.bind fun found => ?_
  dsimp only
  split
  all_goals
    refine .bind ?_ fun built => ?_
    · first
        | exact .pure _
        | exact agree_invalidType _ _ _
    · cases built with
      | ok hosted => exact .pure _
      | error message => exact .fail rfl

/-- Nodes of one shape are decoded with agreement if their children are. -/
theorem agree_decodeShape (regular : ∀ node wire, Regular codec (child node wire))
    (shape : Node.SameShape (AgreeAlong child child') node other) (wire : Json) :
    Agree (codec.decodeShape child node wire) (codec.decodeShape child' other wire) := by
  cases shape with
  | builtIn | literal | enumeration | dateTime =>
      exact (regular_decodeShape regular _ wire).agree
  | list item =>
      cases wire with
      | array items => exact (agree_items_of item items).map _
      | _ => exact agree_invalidType _ _ _
  | record item =>
      cases wire with
      | object members => exact (agree_entries item members).map _
      | _ => exact agree_invalidType _ _ _
  | tuple elements =>
      cases wire with
      | array items => exact (agree_elements elements items).map _
      | _ => exact agree_invalidType _ _ _
  | struct kind properties =>
      cases wire with
      | object members => exact (agree_properties_of properties members).map _
      | _ => exact agree_invalidType _ _ _
  | union discriminator members =>
      cases discriminator with
      | some discriminator => exact agree_decodeArm members _ _ discriminator wire
      | none => exact agree_decodeFirst members _ _ wire
  | intersection kind members =>
      cases wire with
      | object entries => exact (agree_decodeMembers members _ _).map _
      | _ => exact agree_invalidType _ _ _
  | constrained validators inner =>
      refine (inner wire).bind fun value => ?_
      have validated : Regular codec (validate value validators) := regular_validate _ _
      exact validated.agree.bind fun _ => .pure _
  | cast target strategy inner =>
      exact (inner wire).bind fun value => agree_build _ _ _ _ value
  | branded tag inner | named name inner => exact inner wire

end

/-! ## Encoding -/

section

variable {child child' : Node → Value → Walk Json} {members others : List Node}

theorem agree_encodeFirst (pairwise : Forall₂ (AgreeAlong child child') members others)
    (node other : Node) (value : Value) :
    Agree (codec.encodeFirst child node members value)
      (codec.encodeFirst child' other others value) := by
  refine (agree_firstOf_of pairwise value).bind fun found => ?_
  cases found with
  | some wire => exact .pure _
  | none => exact .fail rfl

theorem agree_encodeMembers (pairwise : Forall₂ (AgreeAlong child child') members others)
    (value : Value) (merged : Dict Json) :
    Agree (codec.encodeMembers child value merged members)
      (codec.encodeMembers child' value merged others) := by
  induction pairwise generalizing merged with
  | nil => exact .pure _
  | cons here _ ih =>
      refine (here value).bind fun wire => ?_
      cases wire with
      | object entries => exact ih _
      | _ => exact agree_invalidType _ _ _

/-- An instance is taken apart and encoded with agreement when the lists and the fields it can be
taken apart into are. -/
theorem agree_flattened_bind {inner inner' : Node} {next next' : Value → Walk α}
    (lists : ∀ items, Agree (next (.list items)) (next' (.list items)))
    (structs : ∀ fields, Agree (next (fieldsValue inner fields)) (next' (fieldsValue inner' fields)))
    (target : String) (strategy : CastingStrategy) (hosted : HostInstance) :
    Agree (codec.flattened inner target strategy hosted >>= next)
      (codec.flattened inner' target strategy hosted >>= next') := by
  unfold flattened
  split
  · rw [bind_assoc, bind_assoc]
    refine (agree_fieldsOf hosted).bind fun found => ?_
    cases found with
    | none => exact .throw _
    | some fields =>
        cases strategy with
        | collection =>
            dsimp only
            split
            · exact lists _
            · exact .fail rfl
        | constructor | assignProperties => exact structs fields
  · exact .fail rfl

/-- Nodes of one shape are encoded with agreement if their children are, and the instances under
casts. -/
theorem agree_encodeShape (regular : ∀ node value, Regular codec (child node value))
    (shape : Node.SameShape (AgreeAlong child child') node other)
    (hosts : ∀ inner inner' target strategy, node = .cast inner target strategy →
      other = .cast inner' target strategy → ∀ hosted,
      Agree (codec.flattened inner target strategy hosted >>= child inner)
        (codec.flattened inner' target strategy hosted >>= child' inner'))
    (value : Value) :
    Agree (codec.encodeShape child node value) (codec.encodeShape child' other value) := by
  cases shape with
  | builtIn | literal | enumeration | dateTime =>
      exact (regular_encodeShape regular _ value).agree
  | list item =>
      cases value with
      | list items => exact (agree_items_of item items).map _
      | _ => exact agree_invalidType _ _ _
  | record item =>
      simp only [encodeShape]
      split
      · exact (agree_entries item _).map _
      · exact agree_invalidType _ _ _
  | tuple elements =>
      cases value with
      | list items => exact (agree_elements elements items).map _
      | _ => exact agree_invalidType _ _ _
  | struct kind properties =>
      simp only [encodeShape]
      split
      · exact (agree_properties_of properties _).map _
      · exact agree_invalidType _ _ _
  | @union members others discriminator pairwise =>
      have arms : Option.Rel (AgreeAlong child child')
          (discriminator.bind (armOf? members · value))
          (discriminator.bind (armOf? others · value)) := by
        cases discriminator with
        | none => exact .none
        | some discriminator => exact armOf?_congr pairwise discriminator value
      simp only [encodeShape]
      generalize discriminator.bind (armOf? members · value) = here,
        discriminator.bind (armOf? others · value) = there at arms ⊢
      cases arms with
      | some agree => exact agree value
      | none => exact agree_encodeFirst pairwise _ _ value
  | intersection kind members =>
      refine (agree_entriesOf value).bind fun found => ?_
      cases found with
      | some entries => exact (agree_encodeMembers members _ _).map _
      | none => exact agree_invalidType _ _ _
  | constrained validators inner =>
      refine (inner value).bind fun wire => ?_
      have validated : Regular codec (validate value validators) := regular_validate _ _
      exact validated.agree.bind fun _ => .pure _
  | cast target strategy inner =>
      cases value with
      | host className fields => exact hosts _ _ _ _ rfl rfl _
      | _ => exact inner _
  | branded tag inner | named name inner => exact inner value

end

end Schemata.Codec
