import Schemata.Proofs.Registry.Lookups
import Schemata.Proofs.Resolution

/-!
# Positions in unfolded nodes

Following its references unfolds a node to a tree, which has no end when references form a cycle.
Resolution gives the tree if nothing is wrong at any position in it.  Otherwise it stops for what is
wrong at the first position where something is, from left to right and a node before all below it.
-/

namespace Schemata.NodeRegistry

open List (Forall₂)
open Node (children withChildren)

variable {look : String → Except LookupError Node} {reach : Nat} {path : List Nat}
  {node other : Node} {cause : LookupError}

/-! ## Positions -/

/-- A node stands at a position in the tree that another one unfolds to.  The position tells which
child is taken at each step from the root.  What a reference leads to is its only child. -/
inductive StandsAt (look : String → Except LookupError Node) : List Nat → Node → Node → Prop where
  | root (node : Node) : StandsAt look [] node node
  | child {index : Nat} {path : List Nat} {node child other : Node}
      (among : node.children[index]? = some child) (below : StandsAt look path child other) :
      StandsAt look (index :: path) node other
  | reference {key : String} {path : List Nat} {next other : Node} (found : look key = .ok next)
      (below : StandsAt look path next other) : StandsAt look (0 :: path) (.ref key) other

/-- A position is the same as another one or comes before it, from left to right.  A node comes
before all that is below it. -/
inductive NoLater : List Nat → List Nat → Prop where
  | root (path : List Nat) : NoLater [] path
  | left {index index' : Nat} {path path' : List Nat} (less : index < index') :
      NoLater (index :: path) (index' :: path')
  | inside {index : Nat} {path path' : List Nat} (later : NoLater path path') :
      NoLater (index :: path) (index :: path')

/-- What is wrong at a position: it is out of reach, or the reference there leads to no node. -/
inductive Offence (look : String → Except LookupError Node) (reach : Nat) (node : Node) :
    List Nat → LookupError → Prop where
  | tooDeep {path : List Nat} {other : Node} (stands : StandsAt look path node other)
      (beyond : reach ≤ path.length) : Offence look reach node path (.tooDeep maxSteps)
  | leadsNowhere {path : List Nat} {key : String} {cause : LookupError}
      (stands : StandsAt look path node (.ref key)) (within : path.length < reach)
      (fails : look key = .error cause) : Offence look reach node path cause

/-- The cause is what is wrong at the first position where something is. -/
def FirstOffence (look : String → Except LookupError Node) (reach : Nat) (node : Node)
    (cause : LookupError) : Prop :=
  ∃ path, Offence look reach node path cause ∧
    ∀ other cause', Offence look reach node other cause' → NoLater path other

theorem NoLater.antisymm {path' : List Nat} (noLater : NoLater path path')
    (noLater' : NoLater path' path) : path = path' := by
  induction noLater with
  | root => cases noLater'; rfl
  | left less =>
      cases noLater' with
      | left greater => exact absurd greater (Nat.lt_asymm less)
      | inside => exact absurd less (Nat.lt_irrefl _)
  | inside _ ih =>
      cases noLater' with
      | left less => exact absurd less (Nat.lt_irrefl _)
      | inside later => rw [ih later]

/-- One node stands at a position. -/
theorem StandsAt.unique {other' : Node} (stands : StandsAt look path node other)
    (stands' : StandsAt look path node other') : other = other' := by
  induction stands with
  | root => cases stands'; rfl
  | child among _ ih =>
      cases stands' with
      | child among' below =>
          obtain rfl := Option.some.inj (among.symm.trans among')
          exact ih below
      | reference => cases among
  | reference found _ ih =>
      cases stands' with
      | child among => cases among
      | reference found' below =>
          obtain rfl := Except.ok.inj (found.symm.trans found')
          exact ih below

/-- One thing is wrong at a position. -/
theorem Offence.unique {cause' : LookupError} (offence : Offence look reach node path cause)
    (offence' : Offence look reach node path cause') : cause = cause' := by
  cases offence with
  | tooDeep _ beyond =>
      cases offence' with
      | tooDeep => rfl
      | leadsNowhere _ within => exact absurd beyond (Nat.not_le.mpr within)
  | leadsNowhere stands within fails =>
      cases offence' with
      | tooDeep _ beyond => exact absurd beyond (Nat.not_le.mpr within)
      | leadsNowhere stands' _ fails' =>
          cases stands.unique stands'
          exact Except.error.inj (fails.symm.trans fails')

theorem FirstOffence.unique {cause' : LookupError} (first : FirstOffence look reach node cause)
    (first' : FirstOffence look reach node cause') : cause = cause' := by
  obtain ⟨path, offence, least⟩ := first
  obtain ⟨path', offence', least'⟩ := first'
  obtain rfl := NoLater.antisymm (least path' cause' offence') (least' path cause offence)
  exact offence.unique offence'

/-- What is wrong below a child is wrong below the node. -/
theorem Offence.of_child {index : Nat} {child : Node} (among : node.children[index]? = some child)
    (offence : Offence look reach child path cause) :
    Offence look (reach + 1) node (index :: path) cause := by
  cases offence with
  | tooDeep stands beyond => exact .tooDeep (.child among stands) (Nat.succ_le_succ beyond)
  | leadsNowhere stands within fails =>
      exact .leadsNowhere (.child among stands) (Nat.succ_lt_succ within) fails

/-- Something is wrong with a node that is no reference where it is with a child. -/
theorem Offence.exists_child (notRef : node.isRef = false)
    (offence : Offence look (reach + 1) node path cause) :
    ∃ index child below, path = index :: below ∧ node.children[index]? = some child ∧
      Offence look reach child below cause := by
  cases offence with
  | tooDeep stands beyond =>
      cases stands with
      | root => cases beyond
      | child among below =>
          exact ⟨_, _, _, rfl, among, .tooDeep below (Nat.le_of_succ_le_succ beyond)⟩
      | reference => cases notRef
  | leadsNowhere stands within fails =>
      cases stands with
      | root => cases notRef
      | child among below =>
          exact ⟨_, _, _, rfl, among, .leadsNowhere below (Nat.lt_of_succ_lt_succ within) fails⟩
      | reference => cases notRef

/-- Something is wrong with a reference that leads to a node where it is with the node. -/
theorem offence_ref_iff {key : String} {next : Node} (found : look key = .ok next) :
    Offence look (reach + 1) (.ref key) path cause ↔
      ∃ below, path = 0 :: below ∧ Offence look reach next below cause := by
  constructor
  · intro offence
    cases offence with
    | tooDeep stands beyond =>
        cases stands with
        | root => cases beyond
        | child among => cases among
        | reference found' below =>
            obtain rfl := Except.ok.inj (found.symm.trans found')
            exact ⟨_, rfl, .tooDeep below (Nat.le_of_succ_le_succ beyond)⟩
    | leadsNowhere stands within fails =>
        cases stands with
        | root => cases found.symm.trans fails
        | child among => cases among
        | reference found' below =>
            obtain rfl := Except.ok.inj (found.symm.trans found')
            exact ⟨_, rfl, .leadsNowhere below (Nat.lt_of_succ_lt_succ within) fails⟩
  · rintro ⟨below, rfl, offence⟩
    cases offence with
    | tooDeep stands beyond => exact .tooDeep (.reference found stands) (Nat.succ_le_succ beyond)
    | leadsNowhere stands within fails =>
        exact .leadsNowhere (.reference found stands) (Nat.succ_lt_succ within) fails

/-! ## Unfolding -/

/-- A node unfolds to a tree: a reference to what the node behind it unfolds to, and any other node
to itself with what its children unfold to in their places. -/
inductive Unfolds (look : String → Except LookupError Node) : Node → Node → Prop where
  | reference {key : String} {next tree : Node} (found : look key = .ok next)
      (rest : Unfolds look next tree) : Unfolds look (.ref key) tree
  | node {node : Node} {trees : List Node} (notRef : node.isRef = false)
      (lengths : node.children.length = trees.length)
      (inside : ∀ {child tree}, (child, tree) ∈ node.children.zip trees → Unfolds look child tree) :
      Unfolds look node (node.withChildren trees)

/-- A node unfolds to one tree. -/
theorem Unfolds.unique {tree tree' : Node} (unfolds : Unfolds look node tree)
    (unfolds' : Unfolds look node tree') : tree = tree' := by
  induction unfolds generalizing tree' with
  | reference found _ ih =>
      cases unfolds' with
      | reference found' rest =>
          obtain rfl := Except.ok.inj (found.symm.trans found')
          exact ih rest
      | node notRef => cases notRef
  | @node node trees notRef lengths inside ih =>
      cases unfolds' with
      | reference => cases notRef
      | @node _ trees' _ lengths' inside' =>
          have pairwise : Forall₂ (fun child tree => ∀ tree', Unfolds look child tree' →
              tree = tree') node.children trees :=
            List.forall₂_iff_zip.mpr ⟨lengths, fun pair _ => ih pair⟩
          have pairwise' : Forall₂ (Unfolds look) node.children trees' :=
            List.forall₂_iff_zip.mpr ⟨lengths', inside'⟩
          suffices same : trees = trees' by rw [same]
          clear * - pairwise pairwise'
          generalize node.children = children at pairwise pairwise'
          induction pairwise generalizing trees' with
          | nil => cases pairwise'; rfl
          | cons here _ ih =>
              cases pairwise' with
              | cons there later => rw [here _ there, ih later]

/-! ## Resolution -/

/-- A node comes to the tree that it unfolds to if nothing is wrong in it, and otherwise to the
first thing that is. -/
inductive ComesTo (look : String → Except LookupError Node) (reach : Nat) (node : Node) :
    Except LookupError Node → Prop where
  | ok {tree : Node} (unfolds : Unfolds look node tree)
      (clean : ∀ path cause, ¬Offence look reach node path cause) :
      ComesTo look reach node (.ok tree)
  | error {cause : LookupError} (first : FirstOffence look reach node cause) :
      ComesTo look reach node (.error cause)

/-- Something is wrong at the root, which comes before all other positions. -/
theorem ComesTo.of_root (offence : Offence look reach node [] cause) :
    ComesTo look reach node (.error cause) :=
  .error ⟨[], offence, fun other _ _ => .root other⟩

/-- A reference comes to what the node behind it comes to. -/
theorem ComesTo.reference {key : String} {next : Node} {outcome : Except LookupError Node}
    (found : look key = .ok next) (comes : ComesTo look reach next outcome) :
    ComesTo look (reach + 1) (.ref key) outcome := by
  cases comes with
  | ok unfolds clean =>
      refine .ok (.reference found unfolds) fun path cause offence => ?_
      obtain ⟨below, rfl, inside⟩ := (offence_ref_iff found).mp offence
      exact clean below cause inside
  | error first =>
      obtain ⟨path, offence, least⟩ := first
      refine .error ⟨0 :: path, (offence_ref_iff found).mpr ⟨path, rfl, offence⟩, ?_⟩
      intro other cause' offence'
      obtain ⟨below, rfl, inside⟩ := (offence_ref_iff found).mp offence'
      exact .inside (least below cause' inside)

/-- A node that is no reference comes to what its children come to, from left to right. -/
theorem ComesTo.mapChildren {change : Node → Except LookupError Node} (notRef : node.isRef = false)
    (each : ∀ child, ComesTo look reach child (change child)) :
    ComesTo look (reach + 1) node (node.mapChildren change) := by
  have clean {child tree : Node} (success : change child = .ok tree) :
      Unfolds look child tree ∧ ∀ path cause, ¬Offence look reach child path cause := by
    have here := each child
    rw [success] at here
    cases here with
    | ok unfolds clean => exact ⟨unfolds, clean⟩
  cases run : node.mapChildren change with
  | ok resolved =>
      obtain ⟨trees, inside, rfl⟩ := Node.mapChildren_eq_ok_iff.mp run
      obtain ⟨lengths, pairs⟩ := List.forall₂_iff_zip.mp inside
      refine .ok (.node notRef lengths fun pair => (clean (pairs pair)).1) ?_
      intro path cause offence
      obtain ⟨index, child, below, rfl, among, inside'⟩ := offence.exists_child notRef
      have success := forall₂_getElem? inside index
      rw [among] at success
      generalize trees[index]? = tree at success
      cases success with
      | some success => exact (clean success).2 below cause inside'
  | error cause =>
      obtain ⟨index, child, among, stopped, before⟩ :=
        Except.exists_of_mapM_eq_error (Node.mapChildren_eq_error_iff.mp run)
      have here := each child
      rw [stopped] at here
      cases here with
      | error first =>
          obtain ⟨path, offence, least⟩ := first
          refine .error ⟨index :: path, offence.of_child among, fun other cause' offence' => ?_⟩
          obtain ⟨index', child', below, rfl, among', inside⟩ := offence'.exists_child notRef
          rcases Nat.lt_trichotomy index index' with less | rfl | greater
          · exact .left less
          · cases among.symm.trans among'
            exact .inside (least below cause' inside)
          · -- Nothing is wrong with the children before the first one that is not resolved.
            obtain ⟨tree, success⟩ := before index' greater child' among'
            exact absurd inside ((clean success).2 below cause')

section

variable {outcome : Except LookupError Node} (comes : ComesTo look reach node outcome)
include comes

theorem ComesTo.exists_eq_ok_iff :
    (∃ tree, outcome = .ok tree) ↔ ∀ path cause, ¬Offence look reach node path cause := by
  cases comes with
  | @ok tree _ clean => exact ⟨fun _ => clean, fun _ => ⟨tree, rfl⟩⟩
  | error first =>
      obtain ⟨path, offence, -⟩ := first
      exact ⟨nofun, fun clean => absurd offence (clean path _)⟩

theorem ComesTo.eq_error_iff : outcome = .error cause ↔ FirstOffence look reach node cause := by
  cases comes with
  | ok _ clean =>
      refine ⟨nofun, ?_⟩
      rintro ⟨path, offence, -⟩
      exact absurd offence (clean path cause)
  | error first =>
      constructor
      · rintro ⟨⟩
        exact first
      · intro first'
        rw [first.unique first']

theorem ComesTo.unfolds_iff {resolved tree : Node} (success : outcome = .ok resolved) :
    Unfolds look node tree ↔ tree = resolved := by
  subst success
  cases comes with
  | ok unfolds =>
      constructor
      · exact fun other => other.unique unfolds
      · rintro rfl
        exact unfolds

end

/-- Resolution gives the tree that a node unfolds to, in which nothing is wrong, or it stops for the
first thing that is. -/
theorem comesTo_resolveWith (reach : Nat) (node : Node) :
    ComesTo look reach node (resolveWith look reach node) := by
  induction reach generalizing node with
  | zero =>
      have stopped : resolveWith look 0 node = .error (.tooDeep maxSteps) := by cases node <;> rfl
      rw [stopped]
      exact .of_root (.tooDeep (.root node) (Nat.le_refl 0))
  | succ reach ih =>
      by_cases notRef : node.isRef = false
      · rw [resolveWith_of_not_ref notRef]
        exact .mapChildren notRef ih
      · cases node with
        | ref key =>
            rw [resolveWith_ref]
            cases found : look key with
            | error cause => exact .of_root (.leadsNowhere (.root _) (Nat.succ_pos _) found)
            | ok next => exact (ih next).reference found
        | _ => exact absurd rfl notRef

/-- Nothing is wrong when all nodes are within reach and all references lead to nodes. -/
theorem forall_not_offence_iff :
    (∀ path cause, ¬Offence look (reach + 1) node path cause) ↔
      ∀ path other, StandsAt look path node other →
        path.length ≤ reach ∧ ∀ key, other = .ref key → ∃ next, look key = .ok next := by
  constructor
  · intro clean path other stands
    have near : path.length ≤ reach := by
      by_contra far
      exact clean path _ (.tooDeep stands (Nat.lt_of_not_le far))
    refine ⟨near, ?_⟩
    rintro key rfl
    cases found : look key with
    | ok next => exact ⟨next, rfl⟩
    | error cause =>
        exact absurd (.leadsNowhere stands (Nat.lt_succ_of_le near) found) (clean path cause)
  · intro clean path cause offence
    cases offence with
    | tooDeep stands beyond => exact absurd (clean path _ stands).1 (Nat.not_le.mpr beyond)
    | leadsNowhere stands _ fails =>
        obtain ⟨next, found⟩ := (clean path _ stands).2 _ rfl
        cases found.symm.trans fails

/-- A key leads to a node when it is known and its entry has been built from one. -/
theorem lookup_eq_ok_iff_exists_entry {registry : NodeRegistry} {key : String} {next : Node} :
    registry.lookup key = .ok next ↔
      ∃ entry, Dict.get? registry.entries key = some entry ∧ entry.outcome = .ok next := by
  unfold lookup Entry.node
  cases Dict.get? registry.entries key with
  | none => simp
  | some entry =>
      obtain ⟨outcome, isBuilt⟩ := entry
      cases outcome <;> simp [Except.mapError]

/-- Resolution ends on every registry, also when references form a cycle.  It succeeds when all
references in the unfolded node are known and can be built, and no position in it is more than the
greatest number of steps below the root.  It then gives the unfolded node, which holds no reference
and is resolved by itself.  Otherwise it fails for what is wrong at the first position where
something is.  A session, in which lookups build entries, comes to the same answer. -/
theorem resolve_exact (registry : NodeRegistry) (node : Node) :
    ((∃ resolved, registry.resolve node = .ok resolved) ↔
      ∀ path other, StandsAt registry.lookup path node other →
        path.length ≤ maxSteps ∧ ∀ key, other = .ref key →
          ∃ entry, Dict.get? registry.entries key = some entry ∧
            ∃ next, entry.outcome = .ok next) ∧
      (∀ resolved, registry.resolve node = .ok resolved →
        resolved.RefFree ∧ (∀ tree, Unfolds registry.lookup node tree ↔ tree = resolved) ∧
          registry.resolve resolved = .ok resolved) ∧
      (∀ cause, registry.resolve node = .error cause ↔
        FirstOffence registry.lookup (maxSteps + 1) node cause) ∧
      registry.answer (.resolve node) = registry.resolve node := by
  have comes : ComesTo registry.lookup (maxSteps + 1) node (registry.resolve node) :=
    comesTo_resolveWith (maxSteps + 1) node
  refine ⟨?_, fun resolved success => ?_, fun cause => comes.eq_error_iff, ?_⟩
  · have builds (key : String) :
        (∃ entry, Dict.get? registry.entries key = some entry ∧
          ∃ next, entry.outcome = .ok next) ↔ ∃ next, registry.lookup key = .ok next := by
      simp only [lookup_eq_ok_iff_exists_entry]
      tauto
    simp only [builds]
    rw [comes.exists_eq_ok_iff, forall_not_offence_iff]
  · exact ⟨refFree_of_resolveWith success, fun tree => comes.unfolds_iff success,
      resolveWith_self success⟩
  · obtain ⟨found, finds, same⟩ := registry.exists_lookups (.resolve node)
    exact (same registry finds).2.1

end Schemata.NodeRegistry
