import Schemata.Proofs.Bundle.Equivalence
import Schemata.Proofs.Bundle.Table

/-!
# Resolving the roots of a bundle

A root resolves to a node with the canonical form of its schema, unless the unfolded tree is too
deep.  There is no other failure, since every reference leads to an entry.
-/

namespace Schemata

open Node

/-- Some node of the tree that a node unfolds to stands more than some steps below it. -/
def NodeRegistry.ReachesBelow (registry : NodeRegistry) (limit : Nat) (node : Node) : Prop :=
  ∃ steps other, limit < steps ∧ StandsBelow registry.lookup steps node other

/-- It is enough to know the first level that is too deep. -/
theorem NodeRegistry.reachesBelow_iff {registry : NodeRegistry} {limit : Nat} {node : Node} :
    registry.ReachesBelow limit node ↔
      ∃ other, StandsBelow registry.lookup (limit + 1) node other := by
  constructor
  · rintro ⟨steps, other, less, below⟩
    exact below.exists_of_le less
  · rintro ⟨other, below⟩
    exact ⟨limit + 1, other, Nat.lt_succ_self limit, below⟩

namespace Bundle

open NodeRegistry

variable {schemas : Dict Node} {bundle : Bundle} {name : String} {node : Node}

/-- Resolving a root gives a node without references in the canonical form of the schema, or fails
because the unfolded tree of the root is too deep. -/
theorem resolve?_restores_canonical (refFree : AllRefFree schemas)
    (compiled : compile schemas = .ok bundle) (free : CollisionFree (partsOf schemas))
    (found : Dict.get? schemas name = some node) :
    ∃ root outcome, bundle.root? name = some root ∧
      bundle.resolve? name bundle.registry = some outcome ∧
      ((∃ resolved, outcome = .ok resolved ∧ resolved.RefFree ∧
          resolved.canonical = node.canonical ∧ ¬ bundle.registry.ReachesBelow maxSteps root) ∨
        (outcome = .error (.tooDeep maxSteps) ∧
          bundle.registry.ReachesBelow maxSteps root)) := by
  have among := Dict.mem_of_get?_eq_some found
  have stub := root?_of_compile refFree compiled found
  refine ⟨node.stub, bundle.registry.resolve node.stub, stub, ?_, ?_⟩
  · rw [resolve?, stub]
    rfl
  have entries (key : String) (next : Node) (found : bundle.registry.lookup key = .ok next) :=
    leads_of_lookup refFree compiled found
  rw [reachesBelow_iff]
  rcases resolveWith_ok_or_tooDeep entries (leads_of_root refFree compiled among) with
    ⟨⟨resolved, success⟩, shallow⟩ | failure
  · left
    have keeps := keeps_of_compile refFree compiled
    have written := alike_of_resolve_stub (merges_written keeps free) keeps (refFree _ among)
      (fun _ => mem_partsOf among) success
    exact ⟨resolved, success, refFree_of_resolveWith success, written.1.symm, shallow⟩
  · exact Or.inr failure

/-- The second twin is resolved to the first one, which is written alike. -/
theorem resolve?_restores_canonical_of_twins :
    ∃ bundle resolved, compile twins = .ok bundle ∧ AllRefFree twins ∧
      CollisionFree (partsOf twins) ∧ Dict.get? twins "b" = some (choice "y" "x") ∧
      bundle.resolve? "b" bundle.registry = some (.ok resolved) ∧ resolved.RefFree ∧
      resolved.canonical = (choice "y" "x").canonical := by
  obtain ⟨bundle, compiled⟩ : ∃ bundle, compile twins = .ok bundle :=
    ⟨_, compile_eq refFree_twins⟩
  have found : Dict.get? twins "b" = some (choice "y" "x") := rfl
  obtain ⟨root, outcome, isRoot, result, restored⟩ :=
    resolve?_restores_canonical refFree_twins compiled collisionFree_twins found
  rcases restored with ⟨resolved, rfl, plain, written, _⟩ | ⟨rfl, _⟩
  · exact ⟨bundle, resolved, compiled, refFree_twins, collisionFree_twins, found, result, plain,
      written⟩
  · -- The root of either twin resolves to the first twin.
    have second : bundle.root? "b" = some (.ref (twinKey 4)) := by
      rw [root?, roots_twins compiled]
      rfl
    rw [resolve?, second, Option.map_some, resolve_twins compiled] at result
    cases result

end Bundle

end Schemata
