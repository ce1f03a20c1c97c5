import Schemata.Proofs.Node.Shape

/-!
# The canonical form, constructor by constructor

The text of a node is put together from the texts of its children.  Whether a child is a union
counts too, since an intersection puts unions into parentheses.
-/

namespace Schemata.Node

open List (Forall₂)

def propertyText (property : Property Node) : String :=
  directionMark property.direction ++ displayKey property.name ++
    (if property.optional then "?" else "") ++ ": " ++ property.node.canonical

/-- An operand of an intersection, in parentheses when it is a union. -/
def operandText (node : Node) : String :=
  if node.isUnion then "(" ++ node.canonical ++ ")" else node.canonical

theorem canonicals_eq_map (nodes : List Node) : canonicals nodes = nodes.map canonical := by
  induction nodes with
  | nil => rfl
  | cons node rest ih => exact congrArg (canonical node :: ·) ih

theorem canonicalOperands_eq_map (nodes : List Node) :
    canonicalOperands nodes = nodes.map operandText := by
  induction nodes with
  | nil => rfl
  | cons node rest ih => exact congrArg (operandText node :: ·) ih

theorem canonicalProperties_eq_map (properties : List (Property Node)) :
    canonicalProperties properties =
      properties.map fun property => (property.name, propertyText property) := by
  induction properties with
  | nil => rfl
  | cons property rest ih => exact congrArg ((property.name, propertyText property) :: ·) ih

theorem canonical_list (item : Node) :
    canonical (.list item) = "list<" ++ item.canonical ++ ">" := rfl

theorem canonical_record (item : Node) :
    canonical (.record item) = "array<string, " ++ item.canonical ++ ">" := rfl

theorem canonical_tuple (elements : List Node) :
    canonical (.tuple elements) =
      "array\x7b" ++ String.intercalate ", " (elements.map canonical) ++ "\x7d" := by
  rw [← canonicals_eq_map]
  rfl

/-- A struct is written with its properties in the order of their names. -/
theorem canonical_struct (kind : StructKind) (properties : List (Property Node)) :
    canonical (.struct kind properties) =
      kind.keyword ++ "\x7b" ++
        String.intercalate ", " ((sortedProperties properties).map propertyText) ++ "\x7d" := by
  have entries : sortByName Prod.fst (canonicalProperties properties) =
      (sortedProperties properties).map fun property => (property.name, propertyText property) := by
    rw [canonicalProperties_eq_map]
    refine (map_sortByName _ ?_).symm
    exact fun _ _ => rfl
  change _ ++ String.intercalate ", " ((sortByName Prod.fst _).map Prod.snd) ++ _ = _
  rw [entries, List.map_map]
  rfl

theorem canonical_union (members : List Node) (discriminator : Option Discriminator) :
    canonical (.union members discriminator) =
      String.intercalate "|" (members.map canonical) := by
  rw [← canonicals_eq_map]
  rfl

theorem canonical_intersection (members : List Node) (kind : StructKind) :
    canonical (.intersection members kind) =
      String.intercalate "&" (members.map operandText) := by
  rw [← canonicalOperands_eq_map]
  rfl

theorem canonical_constrained (inner : Node) (validators : List Validator) :
    canonical (.constrained inner validators) =
      "constrained<" ++
        String.intercalate ", " (inner.canonical :: validators.map (·.display)) ++ ">" := rfl

theorem canonical_cast (inner : Node) (target : String) (strategy : CastingStrategy) :
    canonical (.cast inner target strategy) =
      "cast<" ++ target ++ ", " ++ strategy.keyword ++ ", " ++ inner.canonical ++ ">" := rfl

theorem canonical_branded (inner : Node) (tag : String) :
    canonical (.branded inner tag) =
      "branded<" ++ inner.canonical ++ ", " ++
        String.ofList (Text.Quoted.encode tag.toList) ++ ">" := rfl

theorem canonical_named (inner : Node) (name : String) :
    canonical (.named inner name) =
      "named<" ++ String.ofList (Text.Quoted.encode name.toList) ++ ", " ++
        inner.canonical ++ ">" := rfl

/-- Two nodes that are written alike, also as operands of an intersection. -/
def WrittenAlike (left right : Node) : Prop :=
  left.canonical = right.canonical ∧ left.isUnion = right.isUnion

theorem map_eq_of_forall₂ {α β : Type} {f : α → β} {related : α → α → Prop}
    (equal : ∀ left right, related left right → f left = f right) {lefts rights : List α}
    (pairwise : Forall₂ related lefts rights) : lefts.map f = rights.map f := by
  rw [← List.forall₂_eq_eq_eq, List.forall₂_map_left_iff, List.forall₂_map_right_iff]
  exact pairwise.imp equal

/-- The canonical form of a node depends on the canonical forms of its children only. -/
theorem writtenAlike_of_sameShape {left right : Node}
    (same : SameShape WrittenAlike left right) : WrittenAlike left right := by
  cases same with
  | builtIn | literal | enumeration | dateTime => exact ⟨rfl, rfl⟩
  | list item => exact ⟨by rw [canonical_list, canonical_list, item.1], rfl⟩
  | record item => exact ⟨by rw [canonical_record, canonical_record, item.1], rfl⟩
  | tuple elements =>
      have texts := map_eq_of_forall₂ (f := canonical) (fun _ _ same => same.1) elements
      exact ⟨by rw [canonical_tuple, canonical_tuple, texts], rfl⟩
  | struct kind properties =>
      have texts := map_eq_of_forall₂ (f := propertyText)
        (fun _ _ same => by
          rw [propertyText, propertyText, same.name, same.optional, same.direction, same.node.1])
        properties
      exact ⟨by rw [canonical_struct, canonical_struct, texts], rfl⟩
  | union discriminator members =>
      have texts := map_eq_of_forall₂ (f := canonical) (fun _ _ same => same.1) members
      exact ⟨by rw [canonical_union, canonical_union, texts], rfl⟩
  | intersection kind members =>
      have texts := map_eq_of_forall₂ (f := operandText)
        (fun _ _ same => by rw [operandText, operandText, same.1, same.2]) members
      exact ⟨by rw [canonical_intersection, canonical_intersection, texts], rfl⟩
  | constrained validators inner =>
      exact ⟨by rw [canonical_constrained, canonical_constrained, inner.1], rfl⟩
  | cast target strategy inner => exact ⟨by rw [canonical_cast, canonical_cast, inner.1], rfl⟩
  | branded tag inner => exact ⟨by rw [canonical_branded, canonical_branded, inner.1], rfl⟩
  | named name inner => exact ⟨by rw [canonical_named, canonical_named, inner.1], rfl⟩

/-! ## Lengths -/

/-- A text is no longer than texts it is joined with others into. -/
theorem length_le_intercalate (separator : String) {text : String} {texts : List String}
    (member : text ∈ texts) : text.length ≤ (String.intercalate separator texts).length := by
  induction texts with
  | nil => cases member
  | cons first rest ih =>
      cases rest with
      | nil =>
          obtain rfl := List.mem_singleton.mp member
          have alone : String.intercalate separator [text] = text := String.intercalate_singleton
          exact Nat.le_of_eq (congrArg String.length alone.symm)
      | cons second rest =>
          rw [String.intercalate_cons_cons, String.length_append, String.length_append]
          rcases List.mem_cons.mp member with rfl | later
          · omega
          · have inside := ih later
            omega

theorem length_le_propertyText (property : Property Node) :
    property.node.canonical.length ≤ (propertyText property).length := by
  rw [propertyText, String.length_append]
  omega

theorem length_le_operandText (node : Node) :
    node.canonical.length ≤ (operandText node).length := by
  unfold operandText
  split
  · rw [String.length_append, String.length_append]
    omega
  · exact Nat.le_refl _

/-- The properties of a struct are written shorter than the struct. -/
theorem length_canonical_lt_of_mem_struct {kind : StructKind} {properties : List (Property Node)}
    {property : Property Node} (member : property ∈ properties) :
    property.node.canonical.length < (canonical (.struct kind properties)).length := by
  have among : propertyText property ∈ (sortedProperties properties).map propertyText :=
    List.mem_map_of_mem (mem_sortedProperties.mpr member)
  have inside := length_le_intercalate ", " among
  have here := length_le_propertyText property
  have bracket : "\x7b".length = 1 := rfl
  rw [canonical_struct, String.length_append, String.length_append, String.length_append]
  omega

/-- A child is not written longer than the node. -/
theorem length_canonical_le_of_mem_children {node child : Node} (member : child ∈ node.children) :
    child.canonical.length ≤ node.canonical.length := by
  cases node with
  | builtIn | literal | enumeration | dateTime | ref => cases member
  | list item =>
      obtain rfl := List.mem_singleton.mp member
      rw [canonical_list, String.length_append, String.length_append]
      omega
  | record item =>
      obtain rfl := List.mem_singleton.mp member
      rw [canonical_record, String.length_append, String.length_append]
      omega
  | tuple elements =>
      have among : child.canonical ∈ elements.map canonical := List.mem_map_of_mem member
      have inside := length_le_intercalate ", " among
      rw [canonical_tuple, String.length_append, String.length_append]
      omega
  | struct kind properties =>
      obtain ⟨property, among, rfl⟩ := List.mem_map.mp member
      exact Nat.le_of_lt (length_canonical_lt_of_mem_struct among)
  | union members discriminator =>
      rw [canonical_union]
      exact length_le_intercalate "|" (List.mem_map_of_mem member)
  | intersection members kind =>
      have among : operandText child ∈ members.map operandText := List.mem_map_of_mem member
      have inside := length_le_intercalate "&" among
      have here := length_le_operandText child
      rw [canonical_intersection]
      omega
  | constrained inner validators =>
      obtain rfl := List.mem_singleton.mp member
      have among : child.canonical ∈ child.canonical :: validators.map (·.display) :=
        List.mem_cons_self
      have inside := length_le_intercalate ", " among
      rw [canonical_constrained, String.length_append, String.length_append]
      omega
  | cast inner target strategy =>
      obtain rfl := List.mem_singleton.mp member
      simp only [canonical_cast, String.length_append]
      omega
  | branded inner tag =>
      obtain rfl := List.mem_singleton.mp member
      simp only [canonical_branded, String.length_append]
      omega
  | named inner name =>
      obtain rfl := List.mem_singleton.mp member
      simp only [canonical_named, String.length_append]
      omega

end Schemata.Node
