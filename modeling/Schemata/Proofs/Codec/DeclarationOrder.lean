import Schemata.Proofs.Codec.Order
import Schemata.Proofs.Node.Pinned
import Schemata.Proofs.Node.Reordered
import Schemata.Proofs.Unfolding

/-!
# Walks along reordered nodes

Resolution takes nodes that differ in declaration order to such nodes, or fails on both.  So they
are described by one text under every registry, and data is decoded and encoded along them alike.
-/

namespace Schemata

open List (Forall₂)

namespace NodeRegistry

open Node

variable {look : String → Except LookupError Node} {steps : Nat} {node other resolved : Node}

/-- Where a node is resolved, a node of the same order by names is resolved to the same. -/
theorem exists_resolveWith_of_sorted_eq (same : node.sorted = other.sorted)
    (success : resolveWith look steps node = .ok resolved) :
    ∃ result, resolveWith look steps other = .ok result ∧ resolved.sorted = result.sorted := by
  induction steps generalizing node other resolved with
  | zero => cases node <;> cases success
  | succ steps ih =>
      rcases sameShape_of_sorted_eq same with ⟨key, rfl, rfl⟩ | shape
      · exact ⟨resolved, success, rfl⟩
      · rw [resolveWith_of_not_ref shape.isRef_left] at success
        rw [resolveWith_of_not_ref shape.isRef_right]
        have before := sameShape_of_mapChildren shape.isRef_left success
        have children : ∀ child ∈ other.children, ∃ result, resolveWith look steps child =
            .ok result := by
          intro child member
          obtain ⟨first, inside, equal⟩ := shape.exists_child_of_mem_right member
          obtain ⟨found, _, changed⟩ := before.flip.exists_child_of_mem_right inside
          obtain ⟨result, also, _⟩ := ih equal changed
          exact ⟨result, also⟩
        obtain ⟨result, rebuilt⟩ := exists_mapChildren_eq_ok children
        have after := sameShape_of_mapChildren shape.isRef_right rebuilt
        refine ⟨result, rebuilt, sorted_eq_of_sameShape ?_⟩
        refine ((before.flip.comp shape).comp after).mono ?_
        rintro left right ⟨child', ⟨child, changed, equal⟩, changed'⟩
        obtain ⟨found, also, agree⟩ := ih equal changed
        obtain rfl := Except.ok.inj (also.symm.trans changed')
        exact agree

/-- Nodes of one order by names are resolved to such nodes, or fail both. -/
theorem resolve_of_sorted_eq (registry : NodeRegistry) (same : node.sorted = other.sorted) :
    (∃ left right, registry.resolve node = .ok left ∧ registry.resolve other = .ok right ∧
        left.sorted = right.sorted) ∨
      ∃ cause cause', registry.resolve node = .error cause ∧
        registry.resolve other = .error cause' := by
  cases success : registry.resolve node with
  | ok left =>
      obtain ⟨right, also, equal⟩ := exists_resolveWith_of_sorted_eq same success
      exact Or.inl ⟨left, right, rfl, also, equal⟩
  | error cause =>
      cases also : registry.resolve other with
      | error cause' => exact Or.inr ⟨cause, cause', rfl, rfl⟩
      | ok right =>
          obtain ⟨left, absurd, _⟩ := exists_resolveWith_of_sorted_eq same.symm also
          cases success.symm.trans absurd

end NodeRegistry

namespace Codec

/-- Under every registry, problems describe nodes that differ in declaration order by one text. -/
theorem describesSorted (codec : Codec) : codec.DescribesSorted := by
  intro node other same
  cases nodes : codec.nodes with
  | none => exact describesSorted_of_nodes_none nodes same
  | some registry =>
      rcases registry.resolve_of_sorted_eq same with
        ⟨left, right, found, found', equal⟩ | ⟨cause, cause', failed, failed'⟩
      · simp only [describe, nodes, found, found']
        exact (Node.writtenAlike_of_sorted_eq equal).1
      · simp only [describe, nodes, failed, failed']
        exact (Node.writtenAlike_of_sorted_eq same).1

/-- The order in which structs list their properties, which have distinct names, is seen neither in
the canonical form nor in any result of decoding and encoding. -/
theorem walks_eq_of_reordered (codec : Codec) {node other : Node} (distinct : node.DistinctNames)
    (reordered : node.Reordered other) :
    node.canonical = other.canonical ∧ node.contentKey = other.contentKey ∧
      (∀ wire, codec.decode node wire = codec.decode other wire) ∧
        ∀ value, codec.encode node value = codec.encode other value := by
  have same := reordered.sorted_eq distinct
  have written := (Node.writtenAlike_of_sorted_eq same).1
  refine ⟨written, congrArg Sha256.hexDigest written, ?_, ?_⟩
  · intro wire
    rw [decode, decode, decodeWithin_eq_of_sorted_eq codec.describesSorted _ same]
  · intro value
    rw [encode, encode, encodeWithin_eq_of_sorted_eq codec.describesSorted _ same]

/-- A struct with two properties that are references to numbers. -/
def point (first second : String) : Node :=
  .struct .array [Node.required first (.ref "number"), Node.required second (.ref "number")]

/-- A named point, listed in two orders on each level. -/
theorem walks_eq_of_named_point :
    let node := Node.struct .object
      [Node.required "name" (.builtIn .string), Node.required "at" (point "x" "y")]
    let other := Node.struct .object
      [Node.required "at" (point "y" "x"), Node.required "name" (.builtIn .string)]
    let codec : Codec :=
      { types := {}, nodes := some (NodeRegistry.ofNodes [("number", .builtIn .float)]) }
    node.DistinctNames ∧ node.Reordered other ∧
      node.canonical = other.canonical ∧ node.contentKey = other.contentKey ∧
        (∀ wire, codec.decode node wire = codec.decode other wire) ∧
          ∀ value, codec.encode node value = codec.encode other value := by
  intro node other codec
  have leaf : Node.DistinctNames (.builtIn .string) := .leaf (fun _ _ => Node.noConfusion) rfl
  have number : Node.DistinctNames (.ref "number") := .leaf (fun _ _ => Node.noConfusion) rfl
  have inner : (point "x" "y").DistinctNames :=
    Node.distinctNames_struct (by decide) (by simp [Node.required, number])
  have distinct : node.DistinctNames :=
    Node.distinctNames_struct (by decide) (by simp [Node.required, leaf, inner])
  have swapped : (point "x" "y").Reordered (point "y" "x") := by
    refine .struct .array ?_ ?_ (.swap _ _ [])
    · exact .cons ⟨rfl, rfl, rfl, trivial⟩ (.cons ⟨rfl, rfl, rfl, trivial⟩ .nil)
    · exact .cons (.same _) (.cons (.same _) .nil)
  have reordered : node.Reordered other := by
    refine .struct .object ?_ ?_ (.swap _ _ [])
    · exact .cons ⟨rfl, rfl, rfl, trivial⟩ (.cons ⟨rfl, rfl, rfl, trivial⟩ .nil)
    · exact .cons (.same _) (.cons swapped .nil)
  exact ⟨distinct, reordered, walks_eq_of_reordered codec distinct reordered⟩

end Codec

end Schemata
