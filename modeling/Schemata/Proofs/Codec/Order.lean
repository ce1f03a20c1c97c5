import Schemata.Proofs.Codec.References
import Schemata.Proofs.Node.Sorted

/-!
# Declaration order under walks

Nodes that differ in the declaration order of properties only are walked alike, as long as problems
describe them alike.
-/

namespace Schemata

namespace Node

/-- Sorting the properties keeps the struct kind. -/
theorem structKind?_eq_of_sorted_eq {node other : Node} (same : node.sorted = other.sorted) :
    node.structKind? = other.structKind? := by
  induction node using induction_on_children generalizing other with
  | step node ih =>
      rcases sameShape_of_sorted_eq same with ⟨key, rfl, rfl⟩ | shape
      · rfl
      · cases shape with
        | constrained _ inner | cast _ _ inner | named _ inner =>
            have kinds := ih _ (List.mem_singleton_self _) inner
            exact kinds
        | _ => rfl

end Node

namespace Codec

/-- Problems describe nodes that differ in declaration order only by one text. -/
def DescribesSorted (codec : Codec) : Prop :=
  ∀ {node other : Node}, node.sorted = other.sorted → codec.describe node = codec.describe other

/-- Without a registry, nodes are described by their canonical forms. -/
theorem describesSorted_of_nodes_none {codec : Codec} (nodes : codec.nodes = none) :
    codec.DescribesSorted := by
  intro node other same
  rw [describe, describe, nodes]
  exact (Node.writtenAlike_of_sorted_eq same).1

variable {codec : Codec} {node other : Node}

theorem decodeWithin_eq_of_sorted_eq (described : codec.DescribesSorted) (levels : Nat)
    (same : node.sorted = other.sorted) (wire : Json) :
    codec.decodeWithin levels node wire = codec.decodeWithin levels other wire := by
  induction levels generalizing node other wire with
  | zero => rfl
  | succ levels ih =>
      rcases Node.sameShape_of_sorted_eq same with ⟨key, rfl, rfl⟩ | shape
      · rfl
      · rw [decodeWithin_of_not_ref shape.isRef_left, decodeWithin_of_not_ref shape.isRef_right]
        have children := shape.mono fun child other inner =>
          WalkedAlike.mk (described inner) (ih inner)
        exact decodeShape_congr rfl rfl children (described same) wire

theorem encodeWithin_eq_of_sorted_eq (described : codec.DescribesSorted) (levels : Nat)
    (same : node.sorted = other.sorted) (value : Value) :
    codec.encodeWithin levels node value = codec.encodeWithin levels other value := by
  induction levels generalizing node other value with
  | zero => rfl
  | succ levels ih =>
      rcases Node.sameShape_of_sorted_eq same with ⟨key, rfl, rfl⟩ | shape
      · rfl
      · rw [encodeWithin_of_not_ref shape.isRef_left, encodeWithin_of_not_ref shape.isRef_right]
        have children := shape.mono fun child other inner =>
          WalkedAlike.mk (described inner) (ih inner)
        refine encodeShape_congr rfl children ?_ (described same) value
        rintro inner inner' target strategy rfl rfl hosted
        cases shape with
        | cast _ _ below =>
            have kinds := Node.structKind?_eq_of_sorted_eq below
            refine flattened_bind_congr rfl (described below) (fun _ => ih below _) (fun fields => ?_)
              target strategy hosted
            rw [fieldsValue, kinds]
            exact ih below _

end Codec

end Schemata
