import Schemata.Proofs.Node.Sorted

/-!
# Declaration order as a relation

Nodes that are equal except for the order in which their structs list properties.  Where no struct
lists a name twice, such nodes become equal when sorted, so they have one canonical form and one
content key.
-/

namespace Schemata

open List (Forall₂)

/-- Properties with distinct names have one order by their names, however they are listed. -/
theorem sortedProperties_eq_of_perm {ν : Type} {lefts rights : List (Property ν)}
    (listed : lefts.Perm rights) (names : (lefts.map Property.name).Nodup) :
    sortedProperties lefts = sortedProperties rights := by
  have left := ascending_sortedProperties names
  have right := ascending_sortedProperties ((listed.map _).nodup_iff.mp names)
  rw [List.pairwise_map] at left right
  have sorted : (sortedProperties lefts).Perm (sortedProperties rights) :=
    (List.mergeSort_perm _ _).trans (listed.trans (List.mergeSort_perm _ _).symm)
  refine sorted.eq_of_pairwise (fun one two _ _ below above => ?_) left right
  exact absurd (String.lt_trans below above) (String.lt_irrefl _)

namespace Node

/-- No struct in the node lists a name twice. -/
def DistinctNames : Node → Prop :=
  Everywhere fun node => ∀ kind properties, node = .struct kind properties →
    (properties.map Property.name).Nodup

theorem distinctNames_struct {kind : StructKind} {properties : List (Property Node)}
    (names : (properties.map Property.name).Nodup)
    (nodes : ∀ property ∈ properties, property.node.DistinctNames) :
    DistinctNames (.struct kind properties) := by
  refine .intro ?_ fun child member => ?_
  · intro kind' properties' same
    obtain ⟨_, rfl⟩ := Node.struct.inj same
    exact names
  · obtain ⟨property, among, rfl⟩ := List.mem_map.mp member
    exact nodes property among

/-- Two nodes that are equal except for the order in which their structs list properties. -/
inductive Reordered : Node → Node → Prop where
  | same (node : Node) : Reordered node node
  | list {left right : Node} (item : Reordered left right) : Reordered (.list left) (.list right)
  | record {left right : Node} (item : Reordered left right) :
      Reordered (.record left) (.record right)
  | tuple {lefts rights : List Node} (elements : Forall₂ Reordered lefts rights) :
      Reordered (.tuple lefts) (.tuple rights)
  /-- The properties are reordered one by one, and then listed in another order. -/
  | struct (kind : StructKind) {lefts middles rights : List (Property Node)}
      (heads : Forall₂ (Property.Related fun _ _ => True) lefts middles)
      (nodes : Forall₂ Reordered (lefts.map Property.node) (middles.map Property.node))
      (listed : middles.Perm rights) : Reordered (.struct kind lefts) (.struct kind rights)
  | union {lefts rights : List Node} (discriminator : Option Discriminator)
      (members : Forall₂ Reordered lefts rights) :
      Reordered (.union lefts discriminator) (.union rights discriminator)
  | intersection {lefts rights : List Node} (kind : StructKind)
      (members : Forall₂ Reordered lefts rights) :
      Reordered (.intersection lefts kind) (.intersection rights kind)
  | constrained {left right : Node} (validators : List Validator)
      (inner : Reordered left right) :
      Reordered (.constrained left validators) (.constrained right validators)
  | cast {left right : Node} (target : String) (strategy : CastingStrategy)
      (inner : Reordered left right) :
      Reordered (.cast left target strategy) (.cast right target strategy)
  | branded {left right : Node} (tag : String) (inner : Reordered left right) :
      Reordered (.branded left tag) (.branded right tag)
  | named {left right : Node} (name : String) (inner : Reordered left right) :
      Reordered (.named left name) (.named right name)

theorem map_name_eq_of_heads {lefts rights : List (Property Node)}
    (heads : Forall₂ (Property.Related fun _ _ => True) lefts rights) :
    lefts.map Property.name = rights.map Property.name := by
  rw [← List.forall₂_eq_eq_eq, List.forall₂_map_left_iff, List.forall₂_map_right_iff]
  exact heads.imp fun _ _ same => same.name

/-- Properties with the same heads are sorted alike when their nodes are. -/
theorem sortedEach_eq_of_heads {lefts rights : List (Property Node)}
    (heads : Forall₂ (Property.Related fun _ _ => True) lefts rights)
    (nodes : Forall₂ (fun left right => left.sorted = right.sorted)
      (lefts.map Property.node) (rights.map Property.node)) :
    sortedEach lefts = sortedEach rights := by
  apply sortedEach_eq_of_forall₂
  induction heads with
  | nil => exact .nil
  | cons here _ ih =>
      cases nodes with
      | cons node rest => exact .cons ⟨here.name, here.optional, here.direction, node⟩ (ih rest)

/-- Children that are reordered in order become equal when sorted, if all of the first do. -/
theorem forall₂_sorted_eq {lefts rights : List Node} (pairwise : Forall₂ Reordered lefts rights)
    (each : ∀ left ∈ lefts, ∀ {right}, Reordered left right → left.sorted = right.sorted) :
    Forall₂ (fun left right => left.sorted = right.sorted) lefts rights := by
  rw [List.forall₂_iff_zip] at pairwise ⊢
  exact ⟨pairwise.1, fun pair => each _ (List.of_mem_zip pair).1 (pairwise.2 pair)⟩

/-- Nodes that differ in declaration order only become equal when sorted. -/
theorem Reordered.sorted_eq {left right : Node} (distinct : left.DistinctNames)
    (reordered : Reordered left right) : left.sorted = right.sorted := by
  induction left using induction_on_children generalizing right with
  | step left ih =>
      have each (child : Node) (member : child ∈ left.children) {other : Node}
          (inside : Reordered child other) : child.sorted = other.sorted :=
        ih child member (distinct.of_mem_children member) inside
      cases reordered with
      | same => rfl
      | list item | record item | constrained _ item | cast _ _ item | branded _ item
      | named _ item =>
          simp only [sorted, each _ (List.mem_singleton_self _) item]
      | tuple members | union _ members | intersection _ members =>
          simp only [sorted, sortedAll_eq_of_forall₂ (forall₂_sorted_eq members each)]
      | @struct kind lefts middles rights heads nodes listed =>
          have alike := sortedEach_eq_of_heads heads (forall₂_sorted_eq nodes each)
          have names : (middles.map Property.name).Nodup :=
            map_name_eq_of_heads heads ▸ distinct.here kind lefts rfl
          have order := sortedProperties_eq_of_perm listed names
          simp only [sorted, alike]
          rw [sortedProperties_sortedEach, order, ← sortedProperties_sortedEach]

end Node

end Schemata
