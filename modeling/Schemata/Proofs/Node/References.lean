import Schemata.Proofs.Node.Children

/-!
# References in nodes

The keys of the references in a node from left to right.  There are none exactly when the node is
free of references.
-/

namespace Schemata.Node

mutual

/-- The keys of the references in a node, from left to right. -/
def refs : Node → List String
  | .ref key => [key]
  | .list item => refs item
  | .record item => refs item
  | .tuple elements => refsAll elements
  | .struct _ properties => refsEach properties
  | .union members _ => refsAll members
  | .intersection members _ => refsAll members
  | .constrained inner _ => refs inner
  | .cast inner _ _ => refs inner
  | .branded inner _ => refs inner
  | .named inner _ => refs inner
  | _ => []

def refsAll : List Node → List String
  | [] => []
  | node :: rest => refs node ++ refsAll rest

def refsEach : List (Property Node) → List String
  | [] => []
  | ⟨_, node, _, _⟩ :: rest => refs node ++ refsEach rest

end

theorem refsAll_eq_flatMap (nodes : List Node) : refsAll nodes = nodes.flatMap refs := by
  induction nodes with
  | nil => rfl
  | cons node rest ih => rw [refsAll, ih, List.flatMap_cons]

theorem refsEach_eq_flatMap (properties : List (Property Node)) :
    refsEach properties = (properties.map Property.node).flatMap refs := by
  induction properties with
  | nil => rfl
  | cons property rest ih =>
      cases property
      rw [refsEach, ih, List.map_cons, List.flatMap_cons]

/-- A node that is no reference has the references of its children. -/
theorem refs_of_not_ref {node : Node} (notRef : node.isRef = false) :
    node.refs = node.children.flatMap refs := by
  cases node with
  | ref key => cases notRef
  | builtIn | literal | enumeration | dateTime => rfl
  | list | record | constrained | cast | branded | named => simp [refs, children]
  | tuple members | union members _ | intersection members _ => exact refsAll_eq_flatMap members
  | struct kind properties => exact refsEach_eq_flatMap properties

theorem mem_refs_of_child {node child : Node} {key : String} (member : child ∈ node.children)
    (inside : key ∈ child.refs) : key ∈ node.refs := by
  cases node with
  | ref other => cases member
  | _ =>
      rw [refs_of_not_ref rfl]
      exact List.mem_flatMap.mpr ⟨child, member, inside⟩

theorem refs_eq_nil_iff {node : Node} : node.refs = [] ↔ node.RefFree := by
  constructor
  · intro empty
    induction node using induction_on_children with
    | step node ih =>
        have notRef : node.isRef = false := by
          cases node with
          | ref key => cases empty
          | _ => rfl
        rw [refs_of_not_ref notRef, List.flatMap_eq_nil_iff] at empty
        exact .intro notRef fun child member => ih child member (empty child member)
  · intro refFree
    induction refFree with
    | @intro node notRef inside ih =>
        rw [refs_of_not_ref notRef, List.flatMap_eq_nil_iff]
        exact ih

end Schemata.Node
