import Schemata.Proofs.Node.Canonical

/-!
# Declaration order

A node with the properties of all its structs in the order of their names.  Nodes that become equal
by this differ in the declaration order of properties only, and have one canonical form.
-/

namespace Schemata.Node

open List (Forall₂)

mutual

/-- The node with the properties of every struct in the order of their names. -/
def sorted : Node → Node
  | .list item => .list (sorted item)
  | .record item => .record (sorted item)
  | .tuple elements => .tuple (sortedAll elements)
  | .struct kind properties => .struct kind (sortedProperties (sortedEach properties))
  | .union members discriminator => .union (sortedAll members) discriminator
  | .intersection members kind => .intersection (sortedAll members) kind
  | .constrained inner validators => .constrained (sorted inner) validators
  | .cast inner target strategy => .cast (sorted inner) target strategy
  | .branded inner tag => .branded (sorted inner) tag
  | .named inner name => .named (sorted inner) name
  | node => node

def sortedAll : List Node → List Node
  | [] => []
  | node :: rest => sorted node :: sortedAll rest

def sortedEach : List (Property Node) → List (Property Node)
  | [] => []
  | ⟨name, node, optional, direction⟩ :: rest =>
      ⟨name, sorted node, optional, direction⟩ :: sortedEach rest

end

theorem sortedAll_eq_map (nodes : List Node) : sortedAll nodes = nodes.map sorted := by
  induction nodes with
  | nil => rfl
  | cons node rest ih => rw [sortedAll, ih, List.map_cons]

theorem sortedEach_eq_map (properties : List (Property Node)) :
    sortedEach properties =
      properties.map fun property => { property with node := property.node.sorted } := by
  induction properties with
  | nil => rfl
  | cons property rest ih =>
      cases property
      rw [sortedEach, ih, List.map_cons]

/-- Sorting the nodes of properties does not move the properties. -/
theorem sortedProperties_sortedEach (properties : List (Property Node)) :
    sortedProperties (sortedEach properties) = sortedEach (sortedProperties properties) := by
  rw [sortedEach_eq_map, sortedEach_eq_map]
  exact sortedProperties_map sorted properties

/-- Lists of nodes that become equal when sorted are equal in order up to sorting. -/
theorem forall₂_of_sortedAll_eq {lefts rights : List Node}
    (same : sortedAll lefts = sortedAll rights) :
    Forall₂ (fun left right => left.sorted = right.sorted) lefts rights := by
  rw [sortedAll_eq_map, sortedAll_eq_map, ← List.forall₂_eq_eq_eq] at same
  simpa only [List.forall₂_map_left_iff, List.forall₂_map_right_iff] using same

theorem forall₂_of_sortedEach_eq {lefts rights : List (Property Node)}
    (same : sortedEach lefts = sortedEach rights) :
    Forall₂ (Property.Related fun left right => left.sorted = right.sorted) lefts rights := by
  rw [sortedEach_eq_map, sortedEach_eq_map, ← List.forall₂_eq_eq_eq] at same
  rw [List.forall₂_map_left_iff, List.forall₂_map_right_iff] at same
  refine same.imp fun left right equal => ?_
  obtain ⟨name, node, optional, direction⟩ := Property.mk.inj equal
  exact ⟨name, optional, direction, node⟩

theorem sortedAll_eq_of_forall₂ {lefts rights : List Node}
    (pairwise : Forall₂ (fun left right => left.sorted = right.sorted) lefts rights) :
    sortedAll lefts = sortedAll rights := by
  rw [sortedAll_eq_map, sortedAll_eq_map, ← List.forall₂_eq_eq_eq, List.forall₂_map_left_iff,
    List.forall₂_map_right_iff]
  exact pairwise

theorem sortedEach_eq_of_forall₂ {lefts rights : List (Property Node)}
    (pairwise : Forall₂ (Property.Related fun left right => left.sorted = right.sorted)
      lefts rights) :
    sortedEach lefts = sortedEach rights := by
  rw [sortedEach_eq_map, sortedEach_eq_map, ← List.forall₂_eq_eq_eq, List.forall₂_map_left_iff,
    List.forall₂_map_right_iff]
  refine pairwise.imp fun left right same => ?_
  simp only [Property.mk.injEq]
  exact ⟨same.name, same.node, same.optional, same.direction⟩

/-- Nodes that become equal when sorted are references alike or have one shape. -/
theorem sameShape_of_sorted_eq {left right : Node} (same : left.sorted = right.sorted) :
    (∃ key, left = .ref key ∧ right = .ref key) ∨
      SameShape (fun left right => left.sorted = right.sorted) left right := by
  cases left <;> cases right <;> simp only [sorted, reduceCtorEq] at same
  case ref.ref => exact Or.inl ⟨_, rfl, congrArg Node.ref (Node.ref.inj same).symm⟩
  all_goals refine Or.inr ?_
  case builtIn.builtIn => cases same; exact .builtIn _
  case literal.literal => cases same; exact .literal _
  case enumeration.enumeration => cases same; exact .enumeration _
  case dateTime.dateTime => cases same; exact .dateTime _ _
  case list.list => exact .list (Node.list.inj same)
  case record.record => exact .record (Node.record.inj same)
  case tuple.tuple => exact .tuple (forall₂_of_sortedAll_eq (Node.tuple.inj same))
  case struct.struct =>
    obtain ⟨rfl, properties⟩ := Node.struct.inj same
    rw [sortedProperties_sortedEach, sortedProperties_sortedEach] at properties
    exact .struct _ (forall₂_of_sortedEach_eq properties)
  case union.union =>
    obtain ⟨members, rfl⟩ := Node.union.inj same
    exact .union _ (forall₂_of_sortedAll_eq members)
  case intersection.intersection =>
    obtain ⟨members, rfl⟩ := Node.intersection.inj same
    exact .intersection _ (forall₂_of_sortedAll_eq members)
  case constrained.constrained =>
    obtain ⟨inner, rfl⟩ := Node.constrained.inj same
    exact .constrained _ inner
  case cast.cast =>
    obtain ⟨inner, rfl, rfl⟩ := Node.cast.inj same
    exact .cast _ _ inner
  case branded.branded =>
    obtain ⟨inner, rfl⟩ := Node.branded.inj same
    exact .branded _ inner
  case named.named =>
    obtain ⟨inner, rfl⟩ := Node.named.inj same
    exact .named _ inner

/-- Nodes of one shape whose children become equal when sorted become equal themselves. -/
theorem sorted_eq_of_sameShape {left right : Node}
    (same : SameShape (fun left right => left.sorted = right.sorted) left right) :
    left.sorted = right.sorted := by
  cases same with
  | builtIn | literal | enumeration | dateTime => rfl
  | list item | record item => simp only [sorted, item]
  | tuple members | union _ members | intersection _ members =>
      simp only [sorted, sortedAll_eq_of_forall₂ members]
  | struct kind properties =>
      simp only [sorted, sortedProperties_sortedEach, sortedEach_eq_of_forall₂ properties]
  | constrained _ inner | cast _ _ inner | branded _ inner | named _ inner =>
      simp only [sorted, inner]

/-- Nodes that differ in declaration order only are written alike. -/
theorem writtenAlike_of_sorted_eq {left right : Node} (same : left.sorted = right.sorted) :
    WrittenAlike left right := by
  induction left using induction_on_children generalizing right with
  | step left ih =>
      rcases sameShape_of_sorted_eq same with ⟨key, rfl, rfl⟩ | shape
      · exact ⟨rfl, rfl⟩
      · exact writtenAlike_of_sameShape (shape.mono_mem fun _ _ member equal => ih _ member equal)

end Schemata.Node
