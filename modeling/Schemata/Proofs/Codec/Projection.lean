import Schemata.Proofs.Codec.Agreement
import Schemata.Proofs.Codec.References
import Schemata.Proofs.Node.Projection

/-!
# Each direction sees its side

Decoding walks the properties of the input side only, and encoding those of the output side.  So the
projection of a node to the side comes to the same values, and to the same problems at the same
places.  Problems may describe the two nodes by different texts.
-/

namespace Schemata

open List (Forall₂)
open Walk

namespace Codec

variable {codec : Codec} {α β : Type} {node : Node}

/-- Walks along a node and along its projection agree. -/
def AgreesOnSide (side : Direction) (walk : Node → β → Walk α) : Prop :=
  ∀ node, AgreeAlong walk walk node (node.project side)

/-- The properties that are walked on a side agree with those of the projection. -/
theorem AgreesOnSide.properties {side : Direction} {walk : Node → β → Walk α}
    (agrees : AgreesOnSide side walk) (members : Dict β) (properties : List (Property Node)) :
    Agree
      (Walk.properties walk members
        ((sortedProperties properties).filter (·.direction.isOn side)))
      (Walk.properties walk members
        ((sortedProperties (Node.projectProperties side properties)).filter
          (·.direction.isOn side))) := by
  refine agree_properties members ((Node.forall₂_projectProperties properties).imp ?_)
  rintro property other ⟨name, optional, direction, node⟩
  exact ⟨name, optional, direction, node ▸ agrees property.node⟩

/-! ## Decoding -/

/-- Decoding along a node that is no reference agrees with decoding along its projection, if it does
so for the children. -/
theorem AgreesOnSide.decodeShape {child : Node → Json → Walk Value}
    (agrees : AgreesOnSide .input child) (regular : ∀ node wire, Regular codec (child node wire))
    (notRef : node.isRef = false) (wire : Json) :
    Agree (codec.decodeShape child node wire)
      (codec.decodeShape child (node.project .input) wire) := by
  by_cases struct : ∃ kind properties, node = .struct kind properties
  · obtain ⟨kind, properties, rfl⟩ := struct
    cases wire with
    | object members => exact (agrees.properties members properties).map _
    | _ => exact agree_invalidType _ _ _
  · have shape := Node.sameShape_project .input notRef fun kind properties same =>
      struct ⟨kind, properties, same⟩
    refine agree_decodeShape regular (shape.mono ?_) wire
    rintro inner _ rfl
    exact agrees inner

/-- Decoding along a node agrees with decoding along its input side, with any number of levels
left. -/
theorem agreesOnSide_decodeWithin (codec : Codec) (levels : Nat) :
    AgreesOnSide .input (codec.decodeWithin levels) := by
  induction levels with
  | zero => exact fun _ _ => .fail rfl
  | succ levels ih =>
      intro node wire
      cases reference : node.isRef with
      | true =>
          -- What a reference stands for is not projected.
          rw [Node.project_of_isRef reference]
          exact (regular_decodeWithin codec (levels + 1) node wire).agree
      | false =>
          have reference' := (Node.isRef_project .input node).trans reference
          rw [decodeWithin_of_not_ref reference, decodeWithin_of_not_ref reference']
          exact ih.decodeShape (regular_decodeWithin codec levels) reference wire

/-! ## Encoding -/

/-- Encoding along a node that is no reference agrees with encoding along its projection, if it does
so for the children. -/
theorem AgreesOnSide.encodeShape {child : Node → Value → Walk Json}
    (agrees : AgreesOnSide .output child)
    (regular : ∀ node value, Regular codec (child node value))
    (notRef : node.isRef = false) (value : Value) :
    Agree (codec.encodeShape child node value)
      (codec.encodeShape child (node.project .output) value) := by
  by_cases struct : ∃ kind properties, node = .struct kind properties
  · obtain ⟨kind, properties, rfl⟩ := struct
    simp only [Node.project, Codec.encodeShape]
    split
    · exact (agrees.properties _ properties).map _
    · exact agree_invalidType _ _ _
  · have shape := Node.sameShape_project .output notRef fun kind properties same =>
      struct ⟨kind, properties, same⟩
    refine agree_encodeShape regular (shape.mono ?_) ?_ value
    · rintro inner _ rfl
      exact agrees inner
    · rintro inner inner' target strategy rfl same hosted
      obtain ⟨rfl, _, _⟩ := Node.cast.inj same
      refine agree_flattened_bind (fun _ => agrees inner _) (fun fields => ?_) target strategy hosted
      rw [fieldsValue, fieldsValue, Node.structKind?_project]
      exact agrees inner _

/-- Encoding along a node agrees with encoding along its output side, with any number of levels
left. -/
theorem agreesOnSide_encodeWithin (codec : Codec) (levels : Nat) :
    AgreesOnSide .output (codec.encodeWithin levels) := by
  induction levels with
  | zero => exact fun _ _ => .fail rfl
  | succ levels ih =>
      intro node value
      cases reference : node.isRef with
      | true =>
          rw [Node.project_of_isRef reference]
          exact (regular_encodeWithin codec (levels + 1) node value).agree
      | false =>
          have reference' := (Node.isRef_project .output node).trans reference
          rw [encodeWithin_of_not_ref reference, encodeWithin_of_not_ref reference']
          exact ih.encodeShape (regular_encodeWithin codec levels) reference value

/-- Each direction sees its side of a node only.  Along a node and along its projection to the
side, the same value is found, or the same fault of the setup, or the data is refused with the same
keys at the same paths. -/
theorem sameResult_of_project (codec : Codec) (node : Node) :
    (∀ wire, SameResult (codec.decode node wire) (codec.decode (node.project .input) wire)) ∧
      ∀ value,
        SameResult (codec.encode node value) (codec.encode (node.project .output) value) := by
  constructor
  · intro wire
    exact (agreesOnSide_decodeWithin codec codec.options.maxDepth node wire).conclude
  · intro value
    exact (agreesOnSide_encodeWithin codec codec.options.maxDepth node value).conclude

end Codec

end Schemata
