import Schemata.Proofs.Bundle.Sharing
import Schemata.Proofs.Node.References
import Schemata.Node.Build

/-!
# Schemas that are rejected

Rewriting stops at the first reference of a node, and compiling at the first schema that contains
one.  Since a brand is stored whole, this needs that brands hold no references, as those that can be
built do.
-/

namespace Schemata

namespace Node

/-- Every brand in the node is one that can be built. -/
def SoundBrands : Node → Prop :=
  Everywhere fun node => ∀ inner tag, node = .branded inner tag → brandedAs inner tag = .ok node

/-- A brand that can be built is one of an integer or a string. -/
theorem eq_builtIn_of_brandedAs {inner node : Node} {tag : String}
    (built : brandedAs inner tag = .ok node) : ∃ kind, inner = .builtIn kind := by
  unfold brandedAs at built
  split at built
  · exact ⟨_, rfl⟩
  · exact ⟨_, rfl⟩
  · cases built

end Node

namespace Sharing

open Node

variable {key : String} {rest : List String}

/-- Rewriting the node stops at the key, whatever the table is. -/
def StopsAt {α : Type} (rewriting : Sharing α) (key : String) : Prop :=
  ∀ table, ∃ after, rewriting table = .error key after

theorem StopsAt.bind {α β : Type} {first : Sharing α} {next : α → Sharing β}
    (stops : StopsAt first key) : StopsAt (first >>= next) key := by
  intro table
  obtain ⟨after, run⟩ := stops table
  exact ⟨after, EStateM.bind_of_error run⟩

/-- Rewriting a node and then others stops at the first reference of all of them. -/
theorem StopsAt.share_bind {β : Type} {node : Node} {more : List String} {next : Node → Sharing β}
    (here : ∀ rest, node.refs = key :: rest → StopsAt (share node) key)
    (later : more = key :: rest → StopsAt (next node.stub) key)
    (refers : node.refs ++ more = key :: rest) : StopsAt (share node >>= next) key := by
  cases first : node.refs with
  | nil =>
      rw [first, List.nil_append] at refers
      intro table
      rw [EStateM.bind_of_ok (share_run (refs_eq_nil_iff.mp first) table)]
      exact later refers _
  | cons found others =>
      rw [first, List.cons_append] at refers
      obtain ⟨rfl, _⟩ := List.cons_eq_cons.mp refers
      exact (here others first).bind

theorem stopsAt_shareAll {nodes : List Node}
    (each : ∀ child ∈ nodes, ∀ rest, child.refs = key :: rest → StopsAt (share child) key)
    (refers : nodes.flatMap refs = key :: rest) : StopsAt (shareAll nodes) key := by
  induction nodes with
  | nil => cases refers
  | cons node others ih =>
      rw [List.flatMap_cons] at refers
      rw [shareAll]
      refine StopsAt.share_bind (each node List.mem_cons_self) ?_ refers
      intro refers
      exact (ih (fun child member => each child (List.mem_cons_of_mem _ member)) refers).bind

theorem stopsAt_shareProperties {properties : List (Property Node)}
    (each : ∀ child ∈ properties.map Property.node, ∀ rest, child.refs = key :: rest →
      StopsAt (share child) key)
    (refers : (properties.map Property.node).flatMap refs = key :: rest) :
    StopsAt (shareProperties properties) key := by
  induction properties with
  | nil => cases refers
  | cons property others ih =>
      cases property
      rw [List.map_cons, List.flatMap_cons] at refers
      rw [shareProperties]
      refine StopsAt.share_bind (each _ List.mem_cons_self) ?_ refers
      intro refers
      exact (ih (fun child member => each child (List.mem_cons_of_mem _ member)) refers).bind

/-- Rewriting a node stops at its first reference. -/
theorem stopsAt_share {node : Node} (sound : node.SoundBrands) (refers : node.refs = key :: rest) :
    StopsAt (share node) key := by
  induction node using induction_on_children generalizing rest with
  | step node ih =>
      have each (child : Node) (member : child ∈ node.children) (rest : List String)
          (refers : child.refs = key :: rest) : StopsAt (share child) key :=
        ih child member (sound.of_mem_children member) refers
      cases node with
      | ref other =>
          obtain ⟨rfl, _⟩ := List.cons_eq_cons.mp refers
          exact fun table => ⟨table, rfl⟩
      | builtIn | literal | enumeration | dateTime => cases refers
      | branded inner tag =>
          obtain ⟨kind, rfl⟩ := eq_builtIn_of_brandedAs (sound.here inner tag rfl)
          cases refers
      | list item | record item | constrained item _ | cast item _ _ | named item _ =>
          exact (each item (List.mem_singleton_self _) rest refers).bind
      | tuple members | union members _ | intersection members _ =>
          exact (stopsAt_shareAll each ((refs_of_not_ref rfl).symm.trans refers)).bind
      | struct kind properties =>
          exact (stopsAt_shareProperties each ((refs_of_not_ref rfl).symm.trans refers)).bind

end Sharing

namespace Bundle

open Node Sharing

variable {schemas : Dict Node}

/-- The first schema that contains a reference, and the first reference in it. -/
structure FirstRef (schemas : Dict Node) (error : BundleError) : Prop where
  refers : ∃ node, (error.schema, node) ∈ schemas ∧ node.refs.head? = some error.key
  first : ∀ other ∈ schemas, other.1 < error.schema → other.2.RefFree

/-- Adding schemas stops at the first reference of the first schema that contains one. -/
theorem addAll_eq_error {before after : Dict Node} {name key : String} {node : Node}
    {rest : List String} (refFree : AllRefFree before) (sound : node.SoundBrands)
    (refers : node.refs = key :: rest) (bundle : Bundle) :
    addAll bundle (before ++ (name, node) :: after) = .error { schema := name, key } := by
  induction before generalizing bundle with
  | nil =>
      obtain ⟨table, run⟩ := stopsAt_share sound refers bundle.table
      simp only [List.nil_append, addAll, EStateM.run, run]
  | cons schema others ih =>
      obtain ⟨other, free⟩ := schema
      have run := share_run (refFree _ List.mem_cons_self) bundle.table
      have inside : AllRefFree others := fun schema member =>
        refFree schema (List.mem_cons_of_mem _ member)
      simp only [List.cons_append, addAll, EStateM.run, run, ih inside]

/-- Either no schema contains a reference, or there is a first one that does. -/
theorem allRefFree_or_first (schemas : Dict Node) :
    AllRefFree schemas ∨ ∃ before name node after key rest,
      schemas = before ++ (name, node) :: after ∧ AllRefFree before ∧ node.refs = key :: rest := by
  induction schemas with
  | nil => exact Or.inl fun _ nothing => nomatch nothing
  | cons schema others ih =>
      obtain ⟨name, node⟩ := schema
      cases refs : node.refs with
      | cons key rest =>
          have none : AllRefFree [] := fun _ nothing => nomatch nothing
          exact Or.inr ⟨[], name, node, others, key, rest, rfl, none, refs⟩
      | nil =>
          have free : node.RefFree := refs_eq_nil_iff.mp refs
          rcases ih with all | ⟨before, name', node', after, key, rest, rfl, inside, refers⟩
          · left
            exact List.forall_mem_cons.mpr ⟨free, all⟩
          · right
            refine ⟨(name, node) :: before, name', node', after, key, rest, rfl, ?_, refers⟩
            exact List.forall_mem_cons.mpr ⟨free, inside⟩

/-- In ascending order, the schemas before another one are those with smaller names. -/
theorem mem_before_iff {before after : Dict Node} {schema other : String × Node}
    (ascending : ((before ++ schema :: after).map Prod.fst).Pairwise (· < ·))
    (member : other ∈ before ++ schema :: after) : other ∈ before ↔ other.1 < schema.1 := by
  rw [List.pairwise_map, List.pairwise_append, List.pairwise_cons] at ascending
  obtain ⟨_, ⟨later, _⟩, earlier⟩ := ascending
  constructor
  · intro inside
    exact earlier other inside schema List.mem_cons_self
  · intro less
    rcases List.mem_append.mp member with inside | among
    · exact inside
    · rcases List.mem_cons.mp among with rfl | behind
      · exact absurd less (String.lt_irrefl _)
      · exact absurd (String.lt_trans less (later other behind)) (String.lt_irrefl _)

/-- Schemas are rejected for the first reference of the first schema that contains one. -/
theorem compile_eq_error_iff (sound : ∀ schema ∈ schemas, schema.2.SoundBrands)
    (ascending : (Dict.keys schemas).Pairwise (· < ·)) {error : BundleError} :
    compile schemas = .error error ↔ FirstRef schemas error := by
  constructor
  · intro failed
    rcases allRefFree_or_first schemas with
      refFree | ⟨before, name, node, after, key, rest, rfl, free, refers⟩
    · rw [compile_eq refFree] at failed
      cases failed
    have here : (name, node) ∈ before ++ (name, node) :: after := by simp
    rw [compile, addAll_eq_error free (sound _ here) refers] at failed
    obtain rfl := Except.error.inj failed
    refine ⟨⟨node, here, ?_⟩, fun other member less => ?_⟩
    · rw [refers]
      rfl
    · exact free other ((mem_before_iff ascending member).mpr less)
  · rintro ⟨⟨node, member, refers⟩, first⟩
    obtain ⟨rest, refs⟩ := List.head?_eq_some_iff.mp refers
    obtain ⟨before, after, rfl⟩ := List.append_of_mem member
    apply addAll_eq_error _ (sound _ member) refs
    intro other inside
    have among := List.mem_append_left ((error.schema, node) :: after) inside
    exact first other among ((mem_before_iff ascending among).mp inside)

example : compile [("names", .list (.ref "name"))] = .error { schema := "names", key := "name" } :=
  rfl

/-- Schemas are rejected exactly when one of them contains a reference. -/
theorem exists_compile_eq_error_iff (sound : ∀ schema ∈ schemas, schema.2.SoundBrands) :
    (∃ error, compile schemas = .error error) ↔ ∃ schema ∈ schemas, ¬ schema.2.RefFree := by
  constructor
  · rintro ⟨error, failed⟩
    by_contra none
    have refFree : AllRefFree schemas := by
      intro schema member
      by_contra refers
      exact none ⟨schema, member, refers⟩
    rw [compile_eq refFree] at failed
    cases failed
  · rintro ⟨schema, member, refers⟩
    rcases allRefFree_or_first schemas with
      refFree | ⟨before, name, node, after, key, rest, rfl, free, first⟩
    · exact absurd (refFree schema member) refers
    · have here : (name, node) ∈ before ++ (name, node) :: after := by simp
      exact ⟨{ schema := name, key }, addAll_eq_error free (sound _ here) first _⟩

end Bundle

end Schemata
