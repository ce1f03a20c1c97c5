import Schemata.Proofs.Node.Nesting
import Schemata.Proofs.Node.Shape

/-!
# Erased labels

A node without its brands and its names.  Everything else stays as it is built.
-/

namespace Schemata.Node

open List (Forall₂)

mutual

/-- The node with every brand and every name taken off, at the root and below. -/
def erased : Node → Node
  | .list item => .list (erased item)
  | .record item => .record (erased item)
  | .tuple elements => .tuple (erasedAll elements)
  | .struct kind properties => .struct kind (erasedEach properties)
  | .union members discriminator => .union (erasedAll members) discriminator
  | .intersection members kind => .intersection (erasedAll members) kind
  | .constrained inner validators => .constrained (erased inner) validators
  | .cast inner target strategy => .cast (erased inner) target strategy
  | .branded inner _ => erased inner
  | .named inner _ => erased inner
  | node => node

def erasedAll : List Node → List Node
  | [] => []
  | node :: rest => erased node :: erasedAll rest

def erasedEach : List (Property Node) → List (Property Node)
  | [] => []
  | ⟨name, node, optional, direction⟩ :: rest =>
      ⟨name, erased node, optional, direction⟩ :: erasedEach rest

end

attribute [simp] erased erasedAll erasedEach

theorem erasedAll_eq_map (nodes : List Node) : erasedAll nodes = nodes.map erased := by
  induction nodes with
  | nil => rfl
  | cons node rest ih => rw [erasedAll, ih, List.map_cons]

theorem erasedEach_eq_map (properties : List (Property Node)) :
    erasedEach properties =
      properties.map fun property => { property with node := property.node.erased } := by
  induction properties with
  | nil => rfl
  | cons property rest ih =>
      cases property
      rw [erasedEach, ih, List.map_cons]

def isLabel : Node → Bool
  | .branded .. => true
  | .named .. => true
  | _ => false

variable {node child : Node} {levels : Nat}

/-- Under a brand or a name stands one node, and what is erased of the two is the same. -/
theorem exists_of_isLabel (label : node.isLabel = true) :
    ∃ inner, node.children = [inner] ∧ node.erased = inner.erased := by
  cases node with
  | branded inner tag => exact ⟨inner, rfl, by rw [erased]⟩
  | named inner name => exact ⟨inner, rfl, by rw [erased]⟩
  | _ => cases label

/-- The children of what is no label are erased one by one. -/
theorem children_erased (plain : node.isLabel = false) :
    node.erased.children = node.children.map erased := by
  cases node with
  | branded | named => cases plain
  | builtIn | literal | enumeration | dateTime | ref => simp [children]
  | list item | record item | constrained item _ | cast item _ _ => simp [children]
  | tuple members | union members _ | intersection members _ =>
      simp [children, erasedAll_eq_map]
  | struct kind properties => simp [children, erasedEach_eq_map, Function.comp_def]

theorem isRef_erased (plain : node.isLabel = false) : node.erased.isRef = node.isRef := by
  cases node with
  | branded | named => cases plain
  | _ => simp [isRef]

/-- What is no label and no reference keeps its shape. -/
theorem sameShape_erased (plain : node.isLabel = false) (notRef : node.isRef = false) :
    SameShape (fun inner other => other = inner.erased) node node.erased := by
  have each (members : List Node) :
      Forall₂ (fun inner other => other = inner.erased) members (erasedAll members) := by
    rw [erasedAll_eq_map, List.forall₂_map_right_iff]
    exact List.forall₂_same.mpr fun _ _ => rfl
  cases node with
  | branded | named => cases plain
  | ref => cases notRef
  | builtIn kind => simpa only [erased] using .builtIn kind
  | literal value => simpa only [erased] using .literal value
  | enumeration name => simpa only [erased] using .enumeration name
  | dateTime className format => simpa only [erased] using .dateTime className format
  | list item => simpa only [erased] using .list rfl
  | record item => simpa only [erased] using .record rfl
  | tuple elements => simpa only [erased] using .tuple (each elements)
  | struct kind properties =>
      simp only [erased, erasedEach_eq_map]
      refine .struct kind ?_
      rw [sortedProperties_map erased, List.forall₂_map_right_iff]
      exact List.forall₂_same.mpr fun _ _ => ⟨rfl, rfl, rfl, rfl⟩
  | union members discriminator => simpa only [erased] using .union discriminator (each members)
  | intersection members kind => simpa only [erased] using .intersection kind (each members)
  | constrained inner validators => simpa only [erased] using .constrained validators rfl
  | cast inner target strategy => simpa only [erased] using .cast target strategy rfl

/-- What every node but for the labels brings about, and does not depend on children, holds after they
are taken off. -/
theorem everywhere_erased {holds brought : Node → Prop}
    (brings : ∀ node, node.isLabel = false → holds node → brought node.erased)
    (everywhere : node.Everywhere holds) : node.erased.Everywhere brought := by
  induction everywhere with
  | @intro node here inside ih =>
      cases label : node.isLabel with
      | true =>
          obtain ⟨inner, below, same⟩ := exists_of_isLabel label
          rw [same]
          exact ih inner (below ▸ List.mem_singleton_self inner)
      | false =>
          refine .intro (brings node label here) fun child among => ?_
          rw [children_erased label] at among
          obtain ⟨inner, member, rfl⟩ := List.mem_map.mp among
          exact ih inner member

theorem refFree_erased (refFree : node.RefFree) : node.erased.RefFree :=
  everywhere_erased (fun _ plain notRef => (isRef_erased plain).trans notRef) refFree

/-- No brand and no name is left. -/
theorem plain_erased (node : Node) : node.erased.Everywhere fun inner => inner.isLabel = false := by
  have all : node.Everywhere fun _ => True := by
    induction node using induction_on_children with
    | step node ih => exact .intro trivial ih
  refine everywhere_erased (fun inner plain _ => ?_) all
  cases inner with
  | branded | named => cases plain
  | _ => simp [erased, isLabel]

end Schemata.Node
