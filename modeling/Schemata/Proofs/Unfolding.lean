import Schemata.Proofs.Node.References
import Schemata.Proofs.Resolution

/-!
# Unfolded trees

The tree that a node unfolds to when its references are followed.  Where every reference leads to a
node, resolution fails only for trees that are deeper than its steps.  Replacing the references of a
node needs no more than that they can be replaced one by one.
-/

namespace Schemata

/-! ## Rebuilding nodes -/

namespace Node

variable {ε : Type} {change : Node → Except ε Node} {node : Node}

/-- A node whose children can all be changed can be rebuilt. -/
theorem exists_mapChildren_eq_ok
    (each : ∀ child ∈ node.children, ∃ other, change child = .ok other) :
    ∃ rebuilt, node.mapChildren change = .ok rebuilt := by
  obtain ⟨others, inside⟩ := Except.exists_mapM_eq_ok each
  exact ⟨_, mapChildren_eq_ok_iff.mpr ⟨others, Except.mapM_eq_ok_iff.mp inside, rfl⟩⟩

/-- Where all children that cannot be changed fail for one cause, the node fails for it. -/
theorem mapChildren_eq_error {cause : ε}
    (each : ∀ child ∈ node.children,
      (∃ other, change child = .ok other) ∨ change child = .error cause)
    (fails : ∃ child ∈ node.children, change child = .error cause) :
    node.mapChildren change = .error cause :=
  mapChildren_eq_error_iff.mpr (Except.mapM_eq_error each fails)

end Node

namespace NodeRegistry

open Node

variable {look : String → Except LookupError Node} {steps : Nat} {node other : Node}

/-! ## Places in the unfolded tree -/

/-- A node stands some steps below another one in the tree that the latter unfolds to.  Both a child
and a reference that is followed are one step. -/
inductive StandsBelow (look : String → Except LookupError Node) : Nat → Node → Node → Prop where
  | root (node : Node) : StandsBelow look 0 node node
  | child {steps : Nat} {node child other : Node} (member : child ∈ node.children)
      (below : StandsBelow look steps child other) : StandsBelow look (steps + 1) node other
  | reference {steps : Nat} {key : String} {next other : Node} (found : look key = .ok next)
      (below : StandsBelow look steps next other) : StandsBelow look (steps + 1) (.ref key) other

/-- Above every node there is one for every smaller number of steps. -/
theorem StandsBelow.exists_of_le {fewer : Nat} (below : StandsBelow look steps node other)
    (less : fewer ≤ steps) : ∃ between, StandsBelow look fewer node between := by
  induction below generalizing fewer with
  | root node =>
      obtain rfl := Nat.le_zero.mp less
      exact ⟨node, .root node⟩
  | child member _ ih =>
      cases fewer with
      | zero => exact ⟨_, .root _⟩
      | succ fewer =>
          obtain ⟨between, inside⟩ := ih (Nat.le_of_succ_le_succ less)
          exact ⟨between, .child member inside⟩
  | reference found _ ih =>
      cases fewer with
      | zero => exact ⟨_, .root _⟩
      | succ fewer =>
          obtain ⟨between, inside⟩ := ih (Nat.le_of_succ_le_succ less)
          exact ⟨between, .reference found inside⟩

/-- The references of a node lead to nodes. -/
def Leads (look : String → Except LookupError Node) (node : Node) : Prop :=
  ∀ key ∈ node.refs, ∃ next, look key = .ok next

/-- Where all references lead to nodes, resolution gives a node or runs out of steps, and it runs
out of them exactly when some node of the unfolded tree stands that many steps below. -/
theorem resolveWith_ok_or_tooDeep (leads : ∀ key next, look key = .ok next → Leads look next)
    (here : Leads look node) :
    ((∃ resolved, resolveWith look steps node = .ok resolved) ∧
        ¬ ∃ other, StandsBelow look steps node other) ∨
      (resolveWith look steps node = .error (.tooDeep maxSteps) ∧
        ∃ other, StandsBelow look steps node other) := by
  induction steps generalizing node with
  | zero =>
      right
      refine ⟨?_, node, .root node⟩
      cases node <;> rfl
  | succ steps ih =>
      by_cases notRef : node.isRef = false
      · have below (child : Node) (member : child ∈ node.children) : Leads look child :=
          fun key among => here key (mem_refs_of_child member among)
        have inside (child : Node) (member : child ∈ node.children) := ih (below child member)
        rw [resolveWith_of_not_ref notRef]
        by_cases deep : ∃ child ∈ node.children, ∃ other, StandsBelow look steps child other
        · right
          obtain ⟨child, member, other, below⟩ := deep
          refine ⟨?_, other, .child member below⟩
          apply mapChildren_eq_error
          · intro child member
            rcases inside child member with ⟨success, _⟩ | ⟨failed, _⟩
            · exact Or.inl success
            · exact Or.inr failed
          · rcases inside child member with ⟨_, none_below⟩ | ⟨failed, _⟩
            · exact absurd ⟨other, below⟩ none_below
            · exact ⟨child, member, failed⟩
        · left
          constructor
          · apply exists_mapChildren_eq_ok
            intro child member
            rcases inside child member with ⟨success, _⟩ | ⟨_, other, below⟩
            · exact success
            · exact absurd ⟨child, member, other, below⟩ deep
          · rintro ⟨other, below⟩
            cases below with
            | child member below => exact deep ⟨_, member, other, below⟩
            | reference => cases notRef
      · cases node with
        | ref key =>
            obtain ⟨next, found⟩ := here key (List.mem_singleton_self _)
            have followed : resolveWith look (steps + 1) (.ref key) =
                resolveWith look steps next := by
              rw [resolveWith_ref, found]
              rfl
            rw [followed]
            rcases ih (leads key next found) with ⟨success, none_below⟩ | ⟨failed, other, below⟩
            · left
              refine ⟨success, ?_⟩
              rintro ⟨other, below⟩
              cases below with
              | child member _ => cases member
              | reference found' below =>
                  obtain rfl := Except.ok.inj (found.symm.trans found')
                  exact none_below ⟨other, below⟩
            · exact Or.inr ⟨failed, other, .reference found below⟩
        | _ => exact absurd rfl notRef

/-! ## Any number of steps -/

/-- Nodes that can each be resolved in some number of steps can all be resolved in one. -/
theorem exists_steps_of_forall {nodes : List Node}
    (each : ∀ node ∈ nodes, ∃ steps resolved, resolveWith look steps node = .ok resolved) :
    ∃ steps, ∀ node ∈ nodes, ∃ resolved, resolveWith look steps node = .ok resolved := by
  induction nodes with
  | nil => exact ⟨0, fun _ nothing => nomatch nothing⟩
  | cons node rest ih =>
      obtain ⟨first, resolved, here⟩ := each node List.mem_cons_self
      obtain ⟨later, others⟩ := ih fun other member => each other (List.mem_cons_of_mem _ member)
      refine ⟨max first later, ?_⟩
      intro other member
      rcases List.mem_cons.mp member with rfl | among
      · exact ⟨resolved, resolveWith_mono (Nat.le_max_left _ _) here⟩
      · obtain ⟨found, success⟩ := others other among
        exact ⟨found, resolveWith_mono (Nat.le_max_right _ _) success⟩

/-- A node whose references can be resolved can be resolved itself. -/
theorem exists_resolveWith_of_refs
    (each : ∀ key ∈ node.refs, ∃ steps resolved, resolveWith look steps (.ref key) = .ok resolved) :
    ∃ steps resolved, resolveWith look steps node = .ok resolved := by
  induction node using induction_on_children with
  | step node ih =>
      by_cases notRef : node.isRef = false
      · have inside : ∀ child ∈ node.children, ∃ steps resolved,
            resolveWith look steps child = .ok resolved := by
          intro child member
          exact ih child member fun key among => each key (mem_refs_of_child member among)
        obtain ⟨steps, all⟩ := exists_steps_of_forall inside
        obtain ⟨rebuilt, success⟩ := exists_mapChildren_eq_ok all
        refine ⟨steps + 1, rebuilt, ?_⟩
        rw [resolveWith_of_not_ref notRef]
        exact success
      · cases node with
        | ref key => exact each key (List.mem_singleton_self _)
        | _ => exact absurd rfl notRef

end NodeRegistry

end Schemata
