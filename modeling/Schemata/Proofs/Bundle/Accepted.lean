import Schemata.Proofs.Bundle.Table
import Schemata.Proofs.Bundle.Rejection
import Schemata.Proofs.Node.WellFormed

/-!
# What the checks of the constructors accept

A node that is built through the constructors is accepted by them again, part by part, and so is
what sharing leaves of it: references hide the kinds of structs, and everything else keeps its form.
-/

namespace Schemata

namespace Node

/-- A node that is built through the constructors, the checking ones included.  The arms of a
discriminator are a dictionary. -/
inductive Built : Node → Prop where
  | builtIn (kind : BuiltIn) : Built (.builtIn kind)
  | literal (value : Literal) : Built (.literal value)
  | enumeration (name : String) : Built (.enumeration name)
  | dateTime (className : String) (format : DateTimeFormat) : Built (.dateTime className format)
  | list {item : Node} (part : Built item) : Built (.list item)
  | record {item : Node} (part : Built item) : Built (.record item)
  | tuple {elements : List Node} {node : Node} (parts : ∀ element ∈ elements, Built element)
      (built : tupleOf elements = .ok node) : Built node
  | struct {kind : StructKind} {properties : List (Property Node)} {node : Node}
      (parts : ∀ property ∈ properties, Built property.node)
      (built : structOf kind properties = .ok node) : Built node
  | union {members : List Node} {node : Node} (parts : ∀ member ∈ members, Built member)
      (built : unionOf members = .ok node) : Built node
  | discriminatedUnion {members : List Node} {discriminator : Discriminator} {node : Node}
      (parts : ∀ member ∈ members, Built member)
      (ascending : (Dict.keys discriminator.arms).Pairwise (· < ·))
      (built : discriminatedUnionOf members discriminator = .ok node) : Built node
  | intersection {members : List Node} {node : Node} (parts : ∀ member ∈ members, Built member)
      (built : intersectionOf members = .ok node) : Built node
  | intersectionOfKind {kind : StructKind} {members : List Node} {node : Node}
      (parts : ∀ member ∈ members, Built member)
      (built : intersectionOfKind kind members = .ok node) : Built node
  | constrained {inner : Node} (part : Built inner) (validators : List Validator) :
      Built (.constrained inner validators)
  | cast {inner node : Node} {target : String} {strategy : CastingStrategy} (part : Built inner)
      (built : castTo inner target strategy = .ok node) : Built node
  | branded {inner node : Node} {tag : String} (part : Built inner)
      (built : brandedAs inner tag = .ok node) : Built node
  | named {inner : Node} (part : Built inner) (name : String) : Built (.named inner name)
  | ref (key : String) : Built (.ref key)

/-- The constructor of a node accepts its parts. -/
def IsAccepted : Node → Prop
  | .tuple elements => tupleOf elements = .ok (.tuple elements)
  | .struct kind properties => structOf kind properties = .ok (.struct kind properties)
  | .union members none => unionOf members = .ok (.union members none)
  | .union members (some discriminator) =>
      discriminatedUnionOf members discriminator = .ok (.union members (some discriminator)) ∧
        (Dict.keys discriminator.arms).Pairwise (· < ·)
  | .intersection members kind =>
      intersectionOfKind kind members = .ok (.intersection members kind)
  | .cast inner target strategy => castTo inner target strategy = .ok (.cast inner target strategy)
  | .branded inner tag => brandedAs inner tag = .ok (.branded inner tag)
  | _ => True

/-! ## What each constructor asks for -/

section

variable {node inner : Node} {elements members : List Node} {kind : StructKind}

theorem tupleOf_eq_ok_iff :
    tupleOf elements = .ok node ↔ elements ≠ [] ∧ node = .tuple elements := by
  cases elements with
  | nil => simp [tupleOf]
  | cons => simp [tupleOf, eq_comm]

theorem discriminatedUnionOf_eq_ok_iff {discriminator : Discriminator} :
    discriminatedUnionOf members discriminator = .ok node ↔
      2 ≤ members.length ∧ (∀ arm ∈ discriminator.arms, arm.2 < members.length) ∧
        node = .union members (some discriminator) := by
  unfold discriminatedUnionOf
  split
  next short => simp [Nat.not_le.mpr short]
  next several =>
    split
    next arm missing =>
      have among := List.mem_of_find?_eq_some missing
      have outside : members.length ≤ arm.2 := by simpa using List.find?_some missing
      simp only [reduceCtorEq, false_iff]
      rintro ⟨_, inside, _⟩
      exact absurd (inside arm among) (Nat.not_lt.mpr outside)
    next inside =>
      simp only [List.find?_eq_none, decide_eq_true_eq, Nat.not_le] at inside
      simp only [Except.ok.injEq, Nat.le_of_not_lt several, true_and, eq_comm]
      exact (and_iff_right inside).symm

theorem intersectionOfKind_eq_ok_iff :
    intersectionOfKind kind members = .ok node ↔
      2 ≤ members.length ∧
        (∀ member ∈ members, ∀ found, member.structKind? = some found → found = kind) ∧
          node = .intersection members kind := by
  have mixed : (members.any fun member => member.structKind?.any (· ≠ kind)) = true ↔
      ¬ ∀ member ∈ members, ∀ found, member.structKind? = some found → found = kind := by
    simp [List.any_eq_true, Option.any_eq_true]
  unfold intersectionOfKind
  split
  next short => simp [Nat.not_le.mpr short]
  next several =>
    split
    next differs =>
      simp only [reduceCtorEq, false_iff]
      exact fun accepted => mixed.mp differs accepted.2.1
    next agrees =>
      rw [mixed, not_not] at agrees
      simp only [Except.ok.injEq, Nat.le_of_not_lt several, true_and, eq_comm (b := node)]
      exact (and_iff_right agrees).symm

/-- An intersection whose kind is found is accepted when the kind is given. -/
theorem intersectionOfKind_of_intersectionOf (built : intersectionOf members = .ok node) :
    ∃ kind, intersectionOfKind kind members = .ok node := by
  unfold intersectionOf at built
  split at built
  · cases built
  next several =>
    split at built
    · cases built
    · cases built
    next kind shared =>
      cases built
      exact ⟨kind, intersectionOfKind_eq_ok_iff.mpr
        ⟨Nat.le_of_not_lt several, (eq_of_sharedKind shared).2, rfl⟩⟩

theorem castTo_eq_ok_iff {target : String} {strategy : CastingStrategy} :
    castTo inner target strategy = .ok node ↔
      canCast strategy inner = true ∧ node = .cast inner target strategy := by
  unfold castTo
  split
  next castable => simp [castable, eq_comm]
  next other => simp [other]

theorem brandedAs_eq_ok {tag : String} (built : brandedAs inner tag = .ok node) :
    node = .branded inner tag := by
  unfold brandedAs at built
  split at built <;> cases built <;> rfl

end

/-- What is built is accepted again, part by part. -/
theorem Built.accepted {node : Node} (built : node.Built) : node.Everywhere IsAccepted := by
  induction built with
  | builtIn | literal | enumeration | dateTime | ref => exact .leaf trivial rfl
  | list _ ih | record _ ih | constrained _ _ ih | named _ _ ih =>
      exact .intro trivial fun _ member => List.mem_singleton.mp member ▸ ih
  | tuple _ built ih =>
      obtain rfl := (tupleOf_eq_ok_iff.mp built).2
      exact .intro built ih
  | struct _ built ih =>
      obtain rfl := (structOf_eq_ok built).1
      refine .intro built fun child member => ?_
      obtain ⟨property, among, rfl⟩ := List.mem_map.mp member
      exact ih property among
  | union _ built ih =>
      obtain rfl := (unionOf_eq_ok_iff.mp built).2
      exact .intro built ih
  | discriminatedUnion _ ascending built ih =>
      obtain rfl := (discriminatedUnionOf_eq_ok_iff.mp built).2.2
      exact .intro ⟨built, ascending⟩ ih
  | intersection _ built ih =>
      obtain ⟨kind, given⟩ := intersectionOfKind_of_intersectionOf built
      obtain rfl := (intersectionOfKind_eq_ok_iff.mp given).2.2
      exact .intro given ih
  | intersectionOfKind _ built ih =>
      obtain rfl := (intersectionOfKind_eq_ok_iff.mp built).2.2
      exact .intro built ih
  | cast _ built ih =>
      obtain rfl := (castTo_eq_ok_iff.mp built).2
      exact .intro built fun _ member => List.mem_singleton.mp member ▸ ih
  | branded _ built ih =>
      obtain rfl := brandedAs_eq_ok built
      exact .intro built fun _ member => List.mem_singleton.mp member ▸ ih

/-- Brands that are accepted are sound. -/
theorem soundBrands_of_accepted {node : Node} (accepted : node.Everywhere IsAccepted) :
    node.SoundBrands := by
  refine accepted.imp ?_
  rintro _ here inner tag rfl
  exact here

/-! ## What sharing leaves -/

/-- A stub shows no struct kind that the node does not show. -/
theorem structKind?_of_stub {node : Node} {kind : StructKind}
    (shown : node.stub.structKind? = some kind) : node.structKind? = some kind := by
  induction node using induction_on_children with
  | step node ih =>
      cases node with
      | constrained inner _ | named inner _ | cast inner _ _ =>
          exact ih inner (List.mem_singleton_self _) shown
      | intersection members kind => exact shown
      | _ => cases shown

theorem unwrapped_stub (node : Node) : node.stub.unwrapped = node.unwrapped.stub := by
  induction node using induction_on_children with
  | step node ih =>
      cases node with
      | constrained inner _ | named inner _ => exact ih inner (List.mem_singleton_self _)
      | _ => rfl

theorem canCast_stub {strategy : CastingStrategy} {inner : Node}
    (accepted : canCast strategy inner = true) : canCast strategy inner.stub = true := by
  unfold canCast at accepted ⊢
  rw [unwrapped_stub]
  cases root : inner.unwrapped with
  | ref | struct | list =>
      rw [root] at accepted
      cases strategy <;> first | rfl | cases accepted
  | builtIn | literal | enumeration | dateTime | branded | record | tuple | union | intersection
  | constrained | cast | named =>
      rw [root] at accepted
      cases strategy <;> cases accepted

/-- A node that stays where it is keeps what its constructor asks for. -/
theorem isAccepted_stub {node : Node} (notShared : node.isShared = false)
    (accepted : node.IsAccepted) : node.stub.IsAccepted := by
  cases node with
  | builtIn | literal | enumeration | dateTime | branded | struct => cases notShared
  | list | record | constrained | named | ref => trivial
  | tuple elements =>
      obtain ⟨some_elements, _⟩ := tupleOf_eq_ok_iff.mp accepted
      refine tupleOf_eq_ok_iff.mpr ⟨?_, rfl⟩
      simpa [stubs_eq_map] using some_elements
  | union members discriminator =>
      have same : (stubs members).length = members.length := by
        rw [stubs_eq_map, List.length_map]
      cases discriminator with
      | none =>
          obtain ⟨several, _⟩ := unionOf_eq_ok_iff.mp accepted
          exact unionOf_eq_ok_iff.mpr ⟨by omega, rfl⟩
      | some discriminator =>
          obtain ⟨accepted, ascending⟩ := accepted
          obtain ⟨several, inside, _⟩ := discriminatedUnionOf_eq_ok_iff.mp accepted
          refine ⟨discriminatedUnionOf_eq_ok_iff.mpr ⟨by omega, ?_, rfl⟩, ascending⟩
          rwa [same]
  | intersection members kind =>
      obtain ⟨several, agrees, _⟩ := intersectionOfKind_eq_ok_iff.mp accepted
      have same : (stubs members).length = members.length := by
        rw [stubs_eq_map, List.length_map]
      refine intersectionOfKind_eq_ok_iff.mpr ⟨by omega, fun member among found shown => ?_, rfl⟩
      rw [stubs_eq_map] at among
      obtain ⟨origin, listed, rfl⟩ := List.mem_map.mp among
      exact agrees origin listed found (structKind?_of_stub shown)
  | cast inner target strategy =>
      obtain ⟨castable, _⟩ := castTo_eq_ok_iff.mp accepted
      exact castTo_eq_ok_iff.mpr ⟨canCast_stub castable, rfl⟩

/-- The stub of an accepted node is accepted. -/
theorem accepted_stub {node : Node} (accepted : node.Everywhere IsAccepted) :
    node.stub.Everywhere IsAccepted := by
  induction node using induction_on_children with
  | step node ih =>
      cases shared : node.isShared with
      | true =>
          rw [stub_of_isShared shared]
          exact .leaf trivial rfl
      | false =>
          refine .intro (isAccepted_stub shared accepted.here) fun child member => ?_
          rw [children_stub shared] at member
          obtain ⟨origin, among, rfl⟩ := List.mem_map.mp member
          exact ih origin among (accepted.of_mem_children among)

/-- What is kept of an accepted part is accepted. -/
theorem accepted_kept {part : Node} (accepted : part.Everywhere IsAccepted) :
    part.kept.Everywhere IsAccepted := by
  cases part with
  | struct kind properties =>
      refine .intro ?_ fun child member => ?_
      · have here : structOf kind properties = .ok (.struct kind properties) := accepted.here
        obtain ⟨_, some_properties, distinct⟩ := structOf_eq_ok here
        refine structOf_of_nodup (by simpa using some_properties) ?_
        rwa [List.map_map]
      · rw [children_kept_struct] at member
        obtain ⟨origin, among, rfl⟩ := List.mem_map.mp member
        exact accepted_stub (accepted.of_mem_children among)
  | _ => exact accepted

end Node

namespace Bundle

open Node Sharing

variable {schemas : Dict Node} {bundle : Bundle}

/-- Schemas that are built and compile contain no references. -/
theorem allRefFree_of_built (built : ∀ schema ∈ schemas, schema.2.Built)
    (compiled : compile schemas = .ok bundle) : AllRefFree schemas := by
  have sound : ∀ schema ∈ schemas, schema.2.SoundBrands := fun schema among =>
    soundBrands_of_accepted (built schema among).accepted
  intro schema among
  by_contra refers
  obtain ⟨error, failed⟩ := (exists_compile_eq_error_iff sound).mpr ⟨schema, among, refers⟩
  rw [compiled] at failed
  cases failed

/-- Every entry of a bundle of built schemas is accepted. -/
theorem accepted_of_mem_table (built : ∀ schema ∈ schemas, schema.2.Built)
    (compiled : compile schemas = .ok bundle) {entry : String × Node}
    (among : entry ∈ bundle.table) : entry.2.Everywhere IsAccepted := by
  have refFree := allRefFree_of_built built compiled
  have keeps := keeps_of_compile refFree compiled
  have found : Dict.get? bundle.table entry.1 = some entry.2 :=
    Dict.get?_of_mem (nodup_keys_of_compile refFree compiled) among
  obtain ⟨part, member, _, same⟩ := keeps.found ((lookup_eq_ok_iff refFree compiled).mpr found)
  obtain ⟨schema, listed, inside⟩ := List.mem_flatMap.mp member
  rw [same]
  exact accepted_kept ((built schema listed).accepted.of_mem_parts inside)

/-- Every root of a bundle of built schemas is accepted. -/
theorem accepted_of_mem_roots (built : ∀ schema ∈ schemas, schema.2.Built)
    (compiled : compile schemas = .ok bundle) {root : String × Node}
    (among : root ∈ bundle.roots) : root.2.Everywhere IsAccepted := by
  have refFree := allRefFree_of_built built compiled
  rw [bundle_eq_of_compile refFree compiled] at among
  obtain ⟨schema, listed, rfl⟩ := List.mem_map.mp among
  exact accepted_stub (built schema listed).accepted

end Bundle

end Schemata
