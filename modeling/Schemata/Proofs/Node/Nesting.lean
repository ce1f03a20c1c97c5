import Schemata.Proofs.Node.Children

/-!
# Nesting

How many nodes stand one within the other.
-/

namespace Schemata

/-- At most some number of nodes stand one within the other, the node itself included. -/
inductive Node.NestedWithin : Nat → Node → Prop where
  | intro {levels : Nat} {node : Node}
      (inside : ∀ child ∈ node.children, NestedWithin levels child) :
      NestedWithin (levels + 1) node

namespace Node

variable {levels more : Nat} {node child : Node}

theorem NestedWithin.mono (few : levels ≤ more) (nested : node.NestedWithin levels) :
    node.NestedWithin more := by
  induction nested generalizing more with
  | intro inside ih =>
      obtain ⟨more, rfl⟩ := Nat.exists_eq_succ_of_ne_zero (Nat.ne_zero_of_lt few)
      exact .intro fun child among => ih child among (Nat.le_of_succ_le_succ few)

theorem NestedWithin.of_mem_children (nested : node.NestedWithin levels)
    (among : child ∈ node.children) : child.NestedWithin levels := by
  cases nested with
  | intro inside => exact (inside child among).mono (Nat.le_succ _)

end Node

end Schemata
