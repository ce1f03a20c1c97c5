import Schemata.Node.Basic

/-!
# Sub-nodes

The direct children of a node, induction along them, and what holds all the way down.
-/

namespace Schemata.Node

/-- The direct children of a node, in order. -/
def children : Node → List Node
  | .list item => [item]
  | .record item => [item]
  | .tuple elements => elements
  | .struct _ properties => properties.map Property.node
  | .union members _ => members
  | .intersection members _ => members
  | .constrained inner _ => [inner]
  | .cast inner _ _ => [inner]
  | .branded inner _ => [inner]
  | .named inner _ => [inner]
  | _ => []

theorem sizeOf_lt_of_mem_children {node child : Node} (member : child ∈ node.children) :
    sizeOf child < sizeOf node := by
  cases node with
  | list item | record item | constrained item _ | cast item _ _ | branded item _
  | named item _ =>
      obtain rfl := List.mem_singleton.mp member
      simp +arith
  | tuple members | union members _ | intersection members _ =>
      have smaller : sizeOf child < sizeOf members := List.sizeOf_lt_of_mem member
      simp only [tuple.sizeOf_spec, union.sizeOf_spec, intersection.sizeOf_spec]
      omega
  | struct kind properties =>
      obtain ⟨property, inside, rfl⟩ := List.mem_map.mp member
      have smaller := List.sizeOf_lt_of_mem inside
      cases property
      simp only [struct.sizeOf_spec, Property.mk.sizeOf_spec] at smaller ⊢
      omega
  | builtIn | literal | enumeration | dateTime | ref => simp [children] at member

/-- What passes from the children of a node to the node holds of every node. -/
theorem induction_on_children {motive : Node → Prop}
    (step : ∀ node, (∀ child ∈ node.children, motive child) → motive node) (node : Node) :
    motive node :=
  step node fun child _ => induction_on_children step child
termination_by sizeOf node
decreasing_by exact sizeOf_lt_of_mem_children ‹_›

/-- A property holds at a node and at everything below it. -/
inductive Everywhere (holds : Node → Prop) : Node → Prop where
  | intro {node : Node} (here : holds node)
      (inside : ∀ child ∈ node.children, Everywhere holds child) : Everywhere holds node

namespace Everywhere

variable {holds weaker : Node → Prop} {node child : Node}

theorem leaf (here : holds node) (alone : node.children = []) : Everywhere holds node := by
  refine .intro here fun child inside => ?_
  rw [alone] at inside
  cases inside

theorem here (everywhere : Everywhere holds node) : holds node := by
  cases everywhere with
  | intro here _ => exact here

theorem of_mem_children (everywhere : Everywhere holds node) (member : child ∈ node.children) :
    Everywhere holds child := by
  cases everywhere with
  | intro _ inside => exact inside _ member

theorem imp (implies : ∀ node, holds node → weaker node) (everywhere : Everywhere holds node) :
    Everywhere weaker node := by
  induction everywhere with
  | intro here _ ih => exact .intro (implies _ here) ih

end Everywhere

def RefFree : Node → Prop :=
  Everywhere fun node => node.isRef = false

end Schemata.Node
