import Schemata.NodeRegistry
import Schemata.Proofs.Dictionary
import Schemata.Proofs.Node.Rebuilding
import Schemata.Proofs.Node.Shape

/-!
# Resolution

Replacing every reference in a node rebuilds the node from children whose references are replaced in
turn.  The result holds no reference, and more steps would lead to the same result.
-/

namespace Schemata

open List (Forall₂)

/-! ## Rebuilding nodes -/

namespace Node

variable {ε : Type} {change change' : Node → Except ε Node} {node rebuilt : Node}

/-- A node has the shape of itself with related nodes in the places of its children. -/
theorem sameShape_withChildren {related : Node → Node → Prop} {others : List Node}
    (notRef : node.isRef = false) (pairwise : Forall₂ related node.children others) :
    SameShape related node (node.withChildren others) := by
  have only {child : Node} (pairwise : Forall₂ related [child] others) :
      ∃ other, others = [other] ∧ related child other := by
    cases pairwise with
    | cons inside rest =>
        cases rest
        exact ⟨_, rfl, inside⟩
  cases node with
  | ref key => cases notRef
  | builtIn kind => exact .builtIn kind
  | literal value => exact .literal value
  | enumeration name => exact .enumeration name
  | dateTime className format => exact .dateTime className format
  | list item =>
      obtain ⟨other, rfl, inside⟩ := only pairwise
      exact .list inside
  | record item =>
      obtain ⟨other, rfl, inside⟩ := only pairwise
      exact .record inside
  | tuple elements => exact .tuple pairwise
  | struct kind properties =>
      clear notRef only
      refine .struct kind (Property.Related.sorted ?_)
      rw [children, List.forall₂_map_left_iff] at pairwise
      induction pairwise with
      | nil => exact .nil
      | cons inside _ ih => exact .cons ⟨rfl, rfl, rfl, inside⟩ ih
  | union members discriminator => exact .union discriminator pairwise
  | intersection members kind => exact .intersection kind pairwise
  | constrained inner validators =>
      obtain ⟨other, rfl, inside⟩ := only pairwise
      exact .constrained validators inside
  | cast inner target strategy =>
      obtain ⟨other, rfl, inside⟩ := only pairwise
      exact .cast target strategy inside
  | branded inner tag =>
      obtain ⟨other, rfl, inside⟩ := only pairwise
      exact .branded tag inside
  | named inner name =>
      obtain ⟨other, rfl, inside⟩ := only pairwise
      exact .named name inside

/-- A node that is rebuilt keeps its shape. -/
theorem sameShape_of_mapChildren (notRef : node.isRef = false)
    (success : node.mapChildren change = .ok rebuilt) :
    SameShape (fun child other => change child = .ok other) node rebuilt := by
  obtain ⟨others, inside, rfl⟩ := mapChildren_eq_ok_iff.mp success
  exact sameShape_withChildren notRef inside

/-- A node is rebuilt alike by changes that take its children to the same results. -/
theorem mapChildren_eq_ok_of_imp
    (implies : ∀ child ∈ node.children, ∀ other, change child = .ok other →
      change' child = .ok other)
    (success : node.mapChildren change = .ok rebuilt) :
    node.mapChildren change' = .ok rebuilt := by
  obtain ⟨others, inside, same⟩ := mapChildren_eq_ok_iff.mp success
  refine mapChildren_eq_ok_iff.mpr ⟨others, ?_, same⟩
  rw [List.forall₂_iff_zip] at inside ⊢
  exact ⟨inside.1, fun pair => implies _ (List.of_mem_zip pair).1 _ (inside.2 pair)⟩

/-- A change that keeps every child keeps the node. -/
theorem mapChildren_eq_self (keeps : ∀ child ∈ node.children, change child = .ok child) :
    node.mapChildren change = .ok node :=
  mapChildren_eq_ok_iff.mpr
    ⟨node.children, List.forall₂_same.mpr keeps, node.withChildren_children⟩

end Node

namespace NodeRegistry

open Node

/-! ## Looking nodes up -/

theorem lookup_insertNode (registry : NodeRegistry) (key other : String) (node : Node) :
    (registry.insertNode key node).lookup other =
      if other = key then .ok node else registry.lookup other := by
  rw [lookup, insertNode, Dict.get?_insert]
  by_cases same : other = key
  · rw [if_pos same, if_pos same]
    rfl
  · rw [if_neg same, if_neg same]
    rfl

theorem lookup_foldl_insertNode {nodes : List (String × Node)} (registry : NodeRegistry)
    (key : String) (distinct : (nodes.map Prod.fst).Nodup) :
    (nodes.foldl (fun registry entry => registry.insertNode entry.1 entry.2) registry).lookup key =
      match Dict.get? nodes key with
      | some node => .ok node
      | none => registry.lookup key := by
  induction nodes generalizing registry with
  | nil => rfl
  | cons entry rest ih =>
      obtain ⟨first, later⟩ := List.nodup_cons.mp distinct
      rw [List.foldl_cons, ih _ later, lookup_insertNode, Dict.get?_cons]
      by_cases same : entry.1 = key
      · have absent : Dict.get? rest key = none := by
          rw [Dict.get?_eq_none_iff]
          exact same ▸ first
        rw [absent, if_pos same, if_pos same.symm]
      · rw [if_neg same, if_neg (Ne.symm same)]

/-- A registry of nodes under distinct keys finds the node under every key. -/
theorem lookup_ofNodes {nodes : List (String × Node)} (distinct : (nodes.map Prod.fst).Nodup)
    (key : String) :
    (ofNodes nodes).lookup key =
      match Dict.get? nodes key with
      | some node => .ok node
      | none => .error (.unknownKey key) :=
  lookup_foldl_insertNode {} key distinct

/-! ## Replacing references -/

variable {look : String → Except LookupError Node} {steps more hops : Nat} {node resolved : Node}

theorem resolveWith_ref (key : String) :
    resolveWith look (steps + 1) (.ref key) = (look key >>= resolveWith look steps) := rfl

theorem resolveWith_of_not_ref (notRef : node.isRef = false) :
    resolveWith look (steps + 1) node = node.mapChildren (resolveWith look steps) := by
  cases node with
  | ref key => cases notRef
  | _ => rfl

/-- A node that is resolved is a reference to one that is, or keeps its shape. -/
theorem resolveWith_eq_ok_cases (success : resolveWith look steps node = .ok resolved) :
    ∃ fewer, steps = fewer + 1 ∧
      ((∃ key next, node = .ref key ∧ look key = .ok next ∧
          resolveWith look fewer next = .ok resolved) ∨
        (node.isRef = false ∧ node.mapChildren (resolveWith look fewer) = .ok resolved ∧
          SameShape (fun child other => resolveWith look fewer child = .ok other)
            node resolved)) := by
  cases steps with
  | zero => cases node <;> cases success
  | succ fewer =>
      refine ⟨fewer, rfl, ?_⟩
      by_cases notRef : node.isRef = false
      · rw [resolveWith_of_not_ref notRef] at success
        exact Or.inr ⟨notRef, success, sameShape_of_mapChildren notRef success⟩
      · cases node with
        | ref key =>
            obtain ⟨next, found, inside⟩ := Except.bind_eq_ok_iff.mp success
            exact Or.inl ⟨key, next, rfl, found, inside⟩
        | _ => exact absurd rfl notRef

/-- More steps than are needed make no difference. -/
theorem resolveWith_mono (enough : steps ≤ more)
    (success : resolveWith look steps node = .ok resolved) :
    resolveWith look more node = .ok resolved := by
  induction steps generalizing more node resolved with
  | zero => cases node <;> cases success
  | succ steps ih =>
      obtain ⟨more, rfl⟩ := Nat.exists_eq_add_of_le' (Nat.lt_of_lt_of_le (Nat.succ_pos _) enough)
      have fewer : steps ≤ more := Nat.le_of_succ_le_succ enough
      obtain ⟨_, same, ⟨key, next, rfl, found, inside⟩ | ⟨notRef, rebuilt, _⟩⟩ :=
        resolveWith_eq_ok_cases success
      · cases same
        exact Except.bind_eq_ok_iff.mpr ⟨next, found, ih fewer inside⟩
      · cases same
        rw [resolveWith_of_not_ref notRef]
        exact mapChildren_eq_ok_of_imp (fun child _ other => ih fewer) rebuilt

/-- Resolution leaves no reference. -/
theorem refFree_of_resolveWith (success : resolveWith look steps node = .ok resolved) :
    resolved.RefFree := by
  induction steps generalizing node resolved with
  | zero => cases node <;> cases success
  | succ steps ih =>
      obtain ⟨_, same, ⟨key, next, rfl, _, inside⟩ | ⟨_, _, shape⟩⟩ :=
        resolveWith_eq_ok_cases success
      · cases same
        exact ih inside
      · cases same
        refine .intro shape.isRef_right fun other member => ?_
        obtain ⟨child, _, inside⟩ := shape.exists_child_of_mem_right member
        exact ih inside

/-- What resolution leads to is resolved by itself. -/
theorem resolveWith_self (success : resolveWith look steps node = .ok resolved) :
    resolveWith look steps resolved = .ok resolved := by
  induction steps generalizing node resolved with
  | zero => cases node <;> cases success
  | succ steps ih =>
      obtain ⟨_, same, ⟨key, next, rfl, _, inside⟩ | ⟨_, _, shape⟩⟩ :=
        resolveWith_eq_ok_cases success
      · cases same
        exact resolveWith_mono (Nat.le_succ _) (ih inside)
      · cases same
        rw [resolveWith_of_not_ref shape.isRef_right]
        refine mapChildren_eq_self fun other member => ?_
        obtain ⟨child, _, inside⟩ := shape.exists_child_of_mem_right member
        exact ih inside

/-- A node without references is resolved by itself only. -/
theorem eq_of_resolveWith (refFree : node.RefFree)
    (success : resolveWith look steps node = .ok resolved) : resolved = node := by
  induction steps generalizing node resolved with
  | zero => cases node <;> cases success
  | succ steps ih =>
      rw [resolveWith_of_not_ref refFree.here] at success
      have kept : node.mapChildren (Except.ok : Node → Except LookupError Node) = .ok resolved :=
        mapChildren_eq_ok_of_imp (fun child member other inside =>
          congrArg _ (ih (refFree.of_mem_children member) inside).symm) success
      rw [mapChildren_eq_self fun _ _ => rfl] at kept
      exact (Except.ok.inj kept).symm

theorem followWith_of_not_ref (notRef : node.isRef = false) (hops : Nat) :
    followWith look hops node = .ok node := by
  cases node with
  | ref key => cases notRef
  | _ => cases hops <;> rfl

/-- The chain of references at the root of a node that is resolved can be followed. -/
theorem followWith_of_resolveWith (enough : steps ≤ hops + 1)
    (success : resolveWith look steps node = .ok resolved) :
    ∃ target, followWith look hops node = .ok target ∧ target.isRef = false ∧
      resolveWith look steps target = .ok resolved := by
  induction hops generalizing steps node with
  | zero =>
      obtain ⟨fewer, rfl, ⟨key, next, rfl, found, inside⟩ | ⟨notRef, _, _⟩⟩ :=
        resolveWith_eq_ok_cases success
      · obtain rfl : fewer = 0 := by omega
        cases next <;> cases inside
      · exact ⟨node, followWith_of_not_ref notRef _, notRef, success⟩
  | succ hops ih =>
      obtain ⟨fewer, rfl, ⟨key, next, rfl, found, inside⟩ | ⟨notRef, _, _⟩⟩ :=
        resolveWith_eq_ok_cases success
      · obtain ⟨target, followed, notRef, rest⟩ := ih (Nat.le_of_succ_le_succ enough) inside
        exact ⟨target, Except.bind_eq_ok_iff.mpr ⟨next, found, followed⟩, notRef,
          resolveWith_mono (Nat.le_succ _) rest⟩
      · exact ⟨node, followWith_of_not_ref notRef _, notRef, success⟩

/-- A node leads to another by replacing its references, within the steps of a resolution. -/
def Resolves (registry : NodeRegistry) (node resolved : Node) : Prop :=
  ∃ steps, steps ≤ maxSteps + 1 ∧ resolveWith registry.lookup steps node = .ok resolved

namespace Resolves

variable {registry : NodeRegistry}

theorem of_resolve (success : registry.resolve node = .ok resolved) :
    registry.Resolves node resolved :=
  ⟨_, Nat.le_refl _, success⟩

theorem resolve_eq (resolves : registry.Resolves node resolved) :
    registry.resolve node = .ok resolved := by
  obtain ⟨steps, enough, success⟩ := resolves
  exact resolveWith_mono enough success

theorem refFree (resolves : registry.Resolves node resolved) : resolved.RefFree := by
  obtain ⟨steps, _, success⟩ := resolves
  exact refFree_of_resolveWith success

/-- The result stands for itself. -/
theorem self (resolves : registry.Resolves node resolved) :
    registry.Resolves resolved resolved := by
  obtain ⟨steps, enough, success⟩ := resolves
  exact ⟨steps, enough, resolveWith_self success⟩

/-- A node that is no reference has the shape of what it leads to. -/
theorem sameShape (resolves : registry.Resolves node resolved) (notRef : node.isRef = false) :
    SameShape registry.Resolves node resolved := by
  obtain ⟨steps, enough, success⟩ := resolves
  obtain ⟨fewer, rfl, ⟨key, _, rfl, _, _⟩ | ⟨_, _, shape⟩⟩ := resolveWith_eq_ok_cases success
  · cases notRef
  · exact shape.mono fun child other inside => ⟨fewer, by omega, inside⟩

/-- The chain of references that starts at a key ends at a node that leads to the same result. -/
theorem exists_target {key : String} (resolves : registry.Resolves (.ref key) resolved) :
    ∃ target, registry.lookup key >>= registry.follow = .ok target ∧ target.isRef = false ∧
      registry.Resolves target resolved := by
  obtain ⟨steps, enough, success⟩ := resolves
  obtain ⟨fewer, rfl, ⟨_, next, same, found, inside⟩ | ⟨notRef, _, _⟩⟩ :=
    resolveWith_eq_ok_cases success
  · cases same
    have bound : fewer ≤ maxSteps := Nat.le_of_succ_le_succ enough
    obtain ⟨target, followed, notRef, rest⟩ :=
      followWith_of_resolveWith (Nat.le_succ_of_le bound) inside
    exact ⟨target, Except.bind_eq_ok_iff.mpr ⟨next, found, followed⟩, notRef, fewer,
      Nat.le_succ_of_le bound, rest⟩
  · cases notRef

end Resolves

end NodeRegistry

end Schemata
