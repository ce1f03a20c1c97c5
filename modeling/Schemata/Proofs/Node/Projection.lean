import Schemata.Node.Projection
import Schemata.Proofs.Node.Shape

/-!
# Projections of nodes

The projection of a node to one side keeps what its root is, and projects its children.  A struct
keeps the properties of the side, in the order of their names.
-/

namespace Schemata

open List (Forall₂)

/-- A further entry splits the others, in their order, into those ahead of it and those behind it,
and is put between them. -/
theorem sortByName_cons {α : Type} (name : α → String) (entry : α) (rest : List α) :
    let ahead := (sortByName name rest).filter fun other => decide (name other < name entry)
    let behind := (sortByName name rest).filter fun other => !decide (name other < name entry)
    sortByName name rest = ahead ++ behind ∧
      sortByName name (entry :: rest) = ahead ++ entry :: behind := by
  have transitive (left middle right : α) (one : (!decide (name middle < name left)) = true)
      (two : (!decide (name right < name middle)) = true) :
      (!decide (name right < name left)) = true := by
    simp only [Bool.not_eq_true', decide_eq_false_iff_not, String.not_lt] at one two ⊢
    exact String.le_trans one two
  have total (left right : α) :
      (!decide (name right < name left) || !decide (name left < name right)) = true := by
    simp only [Bool.or_eq_true, Bool.not_eq_true', decide_eq_false_iff_not, String.not_lt]
    exact String.le_total _ _
  obtain ⟨ahead, behind, sorted, others, smaller⟩ :=
    List.mergeSort_cons transitive total entry rest
  have ordered := List.pairwise_mergeSort transitive total (entry :: rest)
  rw [sorted, List.pairwise_append, List.pairwise_cons] at ordered
  obtain ⟨_, ⟨larger, _⟩, _⟩ := ordered
  have split : sortByName name rest = ahead ++ behind := others
  have first : ahead.filter (fun other => decide (name other < name entry)) = ahead ∧
      ahead.filter (fun other => !decide (name other < name entry)) = [] :=
    ⟨List.filter_eq_self.mpr fun other member => by simpa using smaller other member,
      List.filter_eq_nil_iff.mpr fun other member => by simpa using smaller other member⟩
  have second : behind.filter (fun other => decide (name other < name entry)) = [] ∧
      behind.filter (fun other => !decide (name other < name entry)) = behind :=
    ⟨List.filter_eq_nil_iff.mpr fun other member => by simpa using larger other member,
      List.filter_eq_self.mpr larger⟩
  dsimp only
  rw [split, List.filter_append, List.filter_append, first.1, first.2, second.1, second.2,
    List.append_nil, List.nil_append]
  exact ⟨rfl, sorted⟩

/-- Leaving entries out before or after they are sorted gives the same. -/
theorem sortByName_filter {α : Type} (name : α → String) (keep : α → Bool) (entries : List α) :
    sortByName name (entries.filter keep) = (sortByName name entries).filter keep := by
  induction entries with
  | nil => simp [sortByName]
  | cons entry rest ih =>
      obtain ⟨split, sorted⟩ := sortByName_cons name entry rest
      by_cases kept : keep entry
      · rw [List.filter_cons_of_pos kept, (sortByName_cons name entry _).2, ih, sorted,
          List.filter_append, List.filter_cons_of_pos kept, List.filter_comm keep,
          List.filter_comm keep]
      · rw [List.filter_cons_of_neg kept, ih, sorted, List.filter_append,
          List.filter_cons_of_neg kept, ← List.filter_append, ← split]

namespace Node

variable {side : Direction}

theorem projectAll_eq_map (nodes : List Node) :
    projectAll side nodes = nodes.map (project side) := by
  induction nodes with
  | nil => rfl
  | cons node rest ih => exact congrArg (project side node :: ·) ih

theorem projectProperties_eq_map (properties : List (Property Node)) :
    projectProperties side properties =
      (properties.filter (·.direction.isOn side)).map fun property =>
        { property with node := project side property.node } := by
  induction properties with
  | nil => rfl
  | cons property rest ih =>
      rw [projectProperties, ih]
      by_cases on : property.direction.isOn side = true
      · rw [if_pos on, List.filter_cons_of_pos (by exact on), List.map_cons]
      · rw [if_neg on, List.filter_cons_of_neg (by exact on)]

/-- The properties of a side are the same whether they are projected or sorted first. -/
theorem sortedProperties_projectProperties (properties : List (Property Node)) :
    sortedProperties (projectProperties side properties) =
      ((sortedProperties properties).filter (·.direction.isOn side)).map fun property =>
        { property with node := project side property.node } := by
  rw [projectProperties_eq_map, sortedProperties_map (project side)]
  exact congrArg (List.map _) (sortByName_filter _ _ _)

/-- The properties that a side walks are those of the projection, with their nodes projected. -/
theorem forall₂_projectProperties (properties : List (Property Node)) :
    Forall₂ (Property.Related fun node other => other = node.project side)
      ((sortedProperties properties).filter (·.direction.isOn side))
      ((sortedProperties (projectProperties side properties)).filter (·.direction.isOn side)) := by
  have again : (((sortedProperties properties).filter (·.direction.isOn side)).filter
      (·.direction.isOn side)) = (sortedProperties properties).filter (·.direction.isOn side) := by
    rw [List.filter_filter]
    exact List.filter_congr fun property _ => Bool.and_self _
  rw [sortedProperties_projectProperties, List.filter_map, List.forall₂_map_right_iff]
  refine again.symm ▸ List.forall₂_same.mpr fun property _ => ?_
  exact ⟨rfl, rfl, rfl, rfl⟩

theorem project_of_isRef {node : Node} (reference : node.isRef = true) :
    node.project side = node := by
  cases node with
  | ref key => simp [project]
  | _ => cases reference

theorem isRef_project (side : Direction) (node : Node) :
    (node.project side).isRef = node.isRef := by
  cases node <;> simp [project, isRef]

/-- What is no struct and no reference keeps its shape. -/
theorem sameShape_project (side : Direction) {node : Node} (notRef : node.isRef = false)
    (notStruct : ∀ kind properties, node ≠ .struct kind properties) :
    SameShape (fun inner other => other = inner.project side) node (node.project side) := by
  have each (members : List Node) :
      Forall₂ (fun inner other => other = inner.project side) members (projectAll side members) := by
    rw [projectAll_eq_map, List.forall₂_map_right_iff]
    exact List.forall₂_same.mpr fun _ _ => rfl
  cases node with
  | ref => cases notRef
  | struct kind properties => exact absurd rfl (notStruct kind properties)
  | builtIn kind => simpa only [project] using .builtIn kind
  | literal value => simpa only [project] using .literal value
  | enumeration name => simpa only [project] using .enumeration name
  | dateTime className format => simpa only [project] using .dateTime className format
  | list item => simpa only [project] using .list rfl
  | record item => simpa only [project] using .record rfl
  | tuple elements => simpa only [project] using .tuple (each elements)
  | union members discriminator => simpa only [project] using .union discriminator (each members)
  | intersection members kind => simpa only [project] using .intersection kind (each members)
  | constrained inner validators => simpa only [project] using .constrained validators rfl
  | cast inner target strategy => simpa only [project] using .cast target strategy rfl
  | branded inner tag => simpa only [project] using .branded tag rfl
  | named inner name => simpa only [project] using .named name rfl

theorem structKind?_project (node : Node) :
    (node.project side).structKind? = node.structKind? := by
  induction node using induction_on_children with
  | step node ih =>
      cases node with
      | constrained inner _ | cast inner _ _ | named inner _ =>
          simpa [project, structKind?] using ih inner (List.mem_singleton.mpr rfl)
      | _ => simp [project, structKind?]

end Node

end Schemata
