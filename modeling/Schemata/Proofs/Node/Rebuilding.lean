import Schemata.Node.Projection
import Schemata.Proofs.Node.Children
import Schemata.Proofs.Outcome

/-!
# Rebuilding nodes

A node is an outermost shape with its children in it.  Rebuilding it changes the children from left
to right and puts what they become in their places.
-/

namespace Schemata.Node

open List (Forall₂)

/-- The node with others in the places of its children. -/
def withChildren : Node → List Node → Node
  | .list _, [item] => .list item
  | .record _, [item] => .record item
  | .tuple _, elements => .tuple elements
  | .struct kind properties, nodes =>
      .struct kind (List.zipWith (fun property node => { property with node }) properties nodes)
  | .union _ discriminator, members => .union members discriminator
  | .intersection _ kind, members => .intersection members kind
  | .constrained _ validators, [inner] => .constrained inner validators
  | .cast _ target strategy, [inner] => .cast inner target strategy
  | .branded _ tag, [inner] => .branded inner tag
  | .named _ name, [inner] => .named inner name
  | node, _ => node

theorem zipWith_map_node (properties : List (Property Node)) :
    List.zipWith (fun property node => { property with node }) properties
      (properties.map Property.node) = properties := by
  induction properties with
  | nil => rfl
  | cons property rest ih => exact congrArg (property :: ·) ih

theorem withChildren_children (node : Node) : node.withChildren node.children = node := by
  cases node with
  | struct kind properties => exact congrArg (Node.struct kind) (zipWith_map_node properties)
  | _ => rfl

/-- Changing the nodes of properties is changing the nodes and putting them back. -/
theorem mapM_property {m : Type → Type} [Monad m] [LawfulMonad m] (change : Node → m Node)
    (properties : List (Property Node)) :
    (properties.mapM fun property => do
        return { property with node := ← change property.node }) =
      List.zipWith (fun property node => { property with node }) properties <$>
        (properties.map Property.node).mapM change := by
  induction properties with
  | nil => simp
  | cons property rest ih =>
      rw [List.mapM_cons, ih, List.map_cons, List.mapM_cons]
      simp only [bind_assoc, pure_bind, map_eq_pure_bind, List.zipWith_cons_cons]

/-- Rebuilding a node is changing its children. -/
theorem mapChildren_eq {m : Type → Type} [Monad m] [LawfulMonad m] (change : Node → m Node)
    (node : Node) :
    node.mapChildren change = node.withChildren <$> node.children.mapM change := by
  cases node with
  | ref | builtIn | literal | enumeration | dateTime => simp [mapChildren, children, withChildren]
  | list | record | constrained | cast | branded | named =>
      simp [mapChildren, children, withChildren]
  | tuple | union | intersection => exact (map_eq_pure_bind _ _).symm
  | struct kind properties =>
      rw [mapChildren, mapM_property]
      simp only [map_eq_pure_bind, bind_assoc, pure_bind]
      rfl

section

variable {ε : Type} {change change' : Node → Except ε Node} {node rebuilt : Node}

theorem mapChildren_eq_ok_iff :
    node.mapChildren change = .ok rebuilt ↔
      ∃ others, Forall₂ (fun child other => change child = .ok other) node.children others ∧
        node.withChildren others = rebuilt := by
  rw [mapChildren_eq, Except.map_eq_ok_iff]
  simp only [Except.mapM_eq_ok_iff]

theorem mapChildren_eq_error_iff {cause : ε} :
    node.mapChildren change = .error cause ↔ node.children.mapM change = .error cause := by
  rw [mapChildren_eq]
  cases node.children.mapM change with
  | ok others => exact ⟨nofun, nofun⟩
  | error found => simp [Functor.map, Except.map]

end

end Schemata.Node
