import Schemata.Proofs.Codec.Congruence
import Schemata.Proofs.Node.Canonical
import Schemata.Proofs.Resolution

/-!
# References under walks

A walk along a node with references is the walk along the node that results from replacing them.  A
reference takes no level of its own, and problems are described by the nodes that references stand
for.
-/

namespace Schemata

open List (Forall₂)

/-! ## Struct kinds behind references -/

namespace NodeRegistry.Resolves

variable {registry : NodeRegistry} {node resolved : Node}

/-- Only a reference hides the struct kind of a node. -/
theorem structKind?_eq (resolves : registry.Resolves node resolved) :
    node.structKind? = none ∨ node.structKind? = resolved.structKind? := by
  induction node using Node.induction_on_children generalizing resolved with
  | step node ih =>
      by_cases notRef : node.isRef = false
      · cases resolves.sameShape notRef with
        | struct | intersection => exact Or.inr rfl
        | constrained _ inner | cast _ _ inner | named _ inner =>
            have same := ih _ (List.mem_singleton_self _) inner
            exact same
        | _ => exact Or.inl rfl
      · cases node with
        | ref key => exact Or.inl rfl
        | _ => exact absurd rfl notRef

end NodeRegistry.Resolves

/-- Validators make no difference between maps and objects. -/
theorem Validator.check_object (validator : Validator) (fields : Dict Value) :
    validator.check (.object fields) = validator.check (.map fields) := by
  cases validator <;> rfl

theorem Walk.validate_object (validators : List Validator) (fields : Dict Value) :
    Walk.validate (.object fields) validators = Walk.validate (.map fields) validators := by
  simp only [Walk.validate, Validator.check_object]

namespace Codec

variable {codec : Codec} {node resolved : Node}

theorem target_of_not_ref (notRef : node.isRef = false) : codec.target node = pure node := by
  cases node with
  | ref key => cases notRef
  | _ => rfl

theorem decodeWithin_of_not_ref (notRef : node.isRef = false) (levels : Nat) (wire : Json) :
    codec.decodeWithin (levels + 1) node wire =
      codec.decodeShape (codec.decodeWithin levels) node wire := by
  rw [decodeWithin, target_of_not_ref notRef]
  rfl

theorem encodeWithin_of_not_ref (notRef : node.isRef = false) (levels : Nat) (value : Value) :
    codec.encodeWithin (levels + 1) node value =
      codec.encodeShape (codec.encodeWithin levels) node value := by
  rw [encodeWithin, target_of_not_ref notRef]
  rfl

/-- Along a node of some struct kind without references, maps and objects are encoded alike. -/
theorem encodeWithin_object (levels : Nat) (refFree : node.RefFree) {kind : StructKind}
    (shown : node.structKind? = some kind) (fields : Dict Value) :
    codec.encodeWithin levels node (.object fields) =
      codec.encodeWithin levels node (.map fields) := by
  induction levels generalizing node with
  | zero => rfl
  | succ levels ih =>
      have inside {inner : Node} (member : inner ∈ node.children)
          (same : node.structKind? = inner.structKind?) :=
        ih (refFree.of_mem_children member) (same ▸ shown)
      rw [encodeWithin_of_not_ref refFree.here, encodeWithin_of_not_ref refFree.here]
      cases node with
      | struct | intersection => rfl
      | constrained inner validators =>
          simp only [encodeShape, inside (List.mem_singleton_self _) rfl, Walk.validate_object]
      | cast inner target strategy | named inner name =>
          exact inside (List.mem_singleton_self _) rfl
      | _ => cases shown

/-- Along a node without references, the fields of an instance are encoded alike as a map and as an
object. -/
theorem encodeWithin_fieldsValue (levels : Nat) (refFree : node.RefFree) (fields : Dict Value) :
    codec.encodeWithin levels node (fieldsValue node fields) =
      codec.encodeWithin levels node (.object fields) := by
  unfold fieldsValue
  cases shown : node.structKind? with
  | none => rfl
  | some kind =>
      cases kind with
      | array => exact (encodeWithin_object levels refFree shown fields).symm
      | object => rfl

/-- A node is described by what it leads to. -/
theorem describe_of_resolves {registry : NodeRegistry} (nodes : codec.nodes = some registry)
    (resolves : registry.Resolves node resolved) : codec.describe node = resolved.canonical := by
  simp only [describe, nodes, resolves.resolve_eq]

/-- A walk along a node goes along one that is no reference and leads to the same result. -/
theorem target_of_resolves {registry : NodeRegistry} (nodes : codec.nodes = some registry)
    (resolves : registry.Resolves node resolved) :
    ∃ target, codec.target node = pure target ∧ target.isRef = false ∧
      registry.Resolves target resolved := by
  by_cases notRef : node.isRef = false
  · exact ⟨node, target_of_not_ref notRef, notRef, resolves⟩
  · cases node with
    | ref key =>
        obtain ⟨target, found, notRef, rest⟩ := resolves.exists_target
        exact ⟨target, by simp only [Codec.target, nodes, found], notRef, rest⟩
    | _ => exact absurd rfl notRef

/-- Two codecs of which one looks references up in a registry, and the other describes what nodes
lead to by its canonical form. -/
structure Unfolded (left right : Codec) (registry : NodeRegistry) : Prop where
  types : left.types = right.types
  options : left.options = right.options
  nodes : left.nodes = some registry
  plain : ∀ {node resolved}, registry.Resolves node resolved →
    right.describe resolved = resolved.canonical

namespace Unfolded

variable {left right : Codec} {registry : NodeRegistry} {target : Node}

theorem described (unfolded : Unfolded left right registry)
    (resolves : registry.Resolves node resolved) : left.describe node = right.describe resolved :=
  (describe_of_resolves unfolded.nodes resolves).trans (unfolded.plain resolves).symm

/-- Decoding along a node is decoding along what it leads to. -/
theorem decodeWithin_eq (unfolded : Unfolded left right registry) (levels : Nat)
    (resolves : registry.Resolves node resolved) (wire : Json) :
    left.decodeWithin levels node wire = right.decodeWithin levels resolved wire := by
  induction levels generalizing node resolved wire with
  | zero => rw [decodeWithin, decodeWithin, unfolded.options]
  | succ levels ih =>
      obtain ⟨target, followed, notRef, rest⟩ := target_of_resolves unfolded.nodes resolves
      have shape : Node.SameShape (WalkedAlike left right (left.decodeWithin levels)
          (right.decodeWithin levels)) target resolved :=
        (rest.sameShape notRef).mono fun _ _ inside => ⟨unfolded.described inside, ih inside⟩
      rw [decodeWithin_of_not_ref resolves.refFree.here, decodeWithin, followed]
      exact decodeShape_congr unfolded.types (congrArg CodecOptions.coercePrimitives unfolded.options)
        shape (unfolded.described rest) wire

/-- An instance under a cast is encoded alike, also where a reference hides the struct kind. -/
theorem encode_flattened (unfolded : Unfolded left right registry) {levels : Nat}
    (walked : ∀ value, left.encodeWithin levels node value =
      right.encodeWithin levels resolved value)
    (resolves : registry.Resolves node resolved) (target : String) (strategy : CastingStrategy)
    (hosted : HostInstance) :
    (left.flattened node target strategy hosted >>= left.encodeWithin levels node) =
      (right.flattened resolved target strategy hosted >>=
        right.encodeWithin levels resolved) := by
  refine flattened_bind_congr unfolded.types (unfolded.described resolves) (fun _ => walked _)
    (fun fields => ?_) target strategy hosted
  rcases resolves.structKind?_eq with hidden | shown
  · -- The one side makes an object of the fields, the other a value of the kind it sees.
    rw [encodeWithin_fieldsValue levels resolves.refFree, fieldsValue, hidden]
    exact walked _
  · rw [fieldsValue, shown]
    exact walked _

/-- Encoding along a node is encoding along what it leads to. -/
theorem encodeWithin_eq (unfolded : Unfolded left right registry) (levels : Nat)
    (resolves : registry.Resolves node resolved) (value : Value) :
    left.encodeWithin levels node value = right.encodeWithin levels resolved value := by
  induction levels generalizing node resolved value with
  | zero => rw [encodeWithin, encodeWithin, unfolded.options]
  | succ levels ih =>
      obtain ⟨target, followed, notRef, rest⟩ := target_of_resolves unfolded.nodes resolves
      have shape : Node.SameShape (WalkedAlike left right (left.encodeWithin levels)
          (right.encodeWithin levels)) target resolved :=
        (rest.sameShape notRef).mono fun _ _ inside => ⟨unfolded.described inside, ih inside⟩
      rw [encodeWithin_of_not_ref resolves.refFree.here, encodeWithin, followed]
      refine encodeShape_congr unfolded.types shape ?_ (unfolded.described rest) value
      rintro inner inner' target strategy rfl rfl hosted
      cases rest.sameShape rfl with
      | cast _ _ inside => exact unfolded.encode_flattened (ih inside) inside target strategy hosted

end Unfolded

/-- A codec with the registry follows references and describes resolved nodes by themselves. -/
theorem unfolded_self {registry : NodeRegistry} (nodes : codec.nodes = some registry) :
    Unfolded codec codec registry where
  types := rfl
  options := rfl
  nodes := nodes
  plain resolves := describe_of_resolves nodes resolves.self

/-- A node with references is decoded and encoded as the node that replacing them results in, with
the same problems at the same places and under the same limit. -/
theorem walks_eq_of_resolve (types : TypeRegistry) (registry : NodeRegistry)
    (options : CodecOptions) {node resolved : Node}
    (resolves : registry.resolve node = .ok resolved) :
    let codec : Codec := { types, nodes := some registry, options }
    (∀ wire, codec.decode node wire = codec.decode resolved wire) ∧
      ∀ value, codec.encode node value = codec.encode resolved value := by
  intro codec
  have unfolded : Unfolded codec codec registry := unfolded_self rfl
  have reaches := NodeRegistry.Resolves.of_resolve resolves
  constructor
  · intro wire
    rw [decode, decode, unfolded.decodeWithin_eq _ reaches]
  · intro value
    rw [encode, encode, unfolded.encodeWithin_eq _ reaches]

/-- A chain of two references with a further one inside. -/
theorem walks_eq_of_chain :
    let registry := NodeRegistry.ofNodes
      [("alias", .ref "items"), ("items", .list (.ref "item")), ("item", .builtIn .int)]
    let codec : Codec := { types := {}, nodes := some registry }
    registry.resolve (.ref "alias") = .ok (.list (.builtIn .int)) ∧
      (∀ wire, codec.decode (.ref "alias") wire = codec.decode (.list (.builtIn .int)) wire) ∧
      ∀ value, codec.encode (.ref "alias") value = codec.encode (.list (.builtIn .int)) value :=
  have resolves : NodeRegistry.resolve _ _ = _ := rfl
  ⟨resolves, walks_eq_of_resolve {} _ {} resolves⟩

end Codec

end Schemata
