import Schemata.Proofs.Codec.References
import Schemata.Proofs.Text.Decimal

/-!
# Chains of references under walks

A walk looks up the first reference of a chain by itself, before it follows the rest.  It therefore
goes one reference further than the registry does: where the last one that the registry refuses to
follow leads to a node, the walk goes on along this node.
-/

namespace Schemata

namespace NodeRegistry

variable {look : String → Except LookupError Node} {length more hops : Nat}
  {node target other : Node}

/-- A chain of so many references starts at a node and ends at another one. -/
inductive Chain (look : String → Except LookupError Node) : Nat → Node → Node → Prop where
  | here (node : Node) : Chain look 0 node node
  | step {key : String} {length : Nat} {next target : Node} (found : look key = .ok next)
      (rest : Chain look length next target) : Chain look (length + 1) (.ref key) target

/-- Following references does not end at a reference. -/
theorem isRef_of_followWith (success : followWith look hops node = .ok target) :
    target.isRef = false := by
  induction hops generalizing node with
  | zero =>
      cases node with
      | ref key => cases success
      | _ => cases success; rfl
  | succ hops ih =>
      cases node with
      | ref key =>
          obtain ⟨next, _, rest⟩ := Except.bind_eq_ok_iff.mp success
          exact ih rest
      | _ => cases success; rfl

/-- To follow a chain and more is to go on where the chain ends. -/
theorem Chain.followWith_eq (chain : Chain look length node target) (more : Nat) :
    followWith look (length + more) node = followWith look more target := by
  induction chain with
  | here => rw [Nat.zero_add]
  | step found _ ih => rw [Nat.succ_add, followWith, found, ← ih]; rfl

/-- A reference is left over behind as many as are followed. -/
theorem Chain.follow_eq {registry : NodeRegistry} {last : String}
    (chain : Chain registry.lookup maxSteps node (.ref last)) :
    registry.follow node = .error (.tooDeep maxSteps) :=
  chain.followWith_eq 0

/-- A chain that ends at a node other than a reference is the longest from its start. -/
theorem Chain.length_le (chain : Chain look length node target) (notRef : target.isRef = false)
    (chain' : Chain look more node other) : more ≤ length := by
  induction chain generalizing more with
  | here =>
      cases chain' with
      | here => exact Nat.le_refl 0
      | step => cases notRef
  | step found _ ih =>
      cases chain' with
      | here => exact Nat.zero_le _
      | step found' rest =>
          obtain rfl := Except.ok.inj (found.symm.trans found')
          exact Nat.succ_le_succ (ih notRef rest)

/-- One more reference to follow makes no difference if none is left over without it. -/
theorem followWith_succ_of_no_chain (done : ∀ last, ¬Chain look hops node (.ref last)) :
    followWith look (hops + 1) node = followWith look hops node := by
  induction hops generalizing node with
  | zero =>
      cases node with
      | ref key => exact absurd (.here _) (done key)
      | _ => rfl
  | succ hops ih =>
      cases node with
      | ref key =>
          rw [followWith, followWith]
          cases found : look key with
          | ok next => exact ih fun last rest => done last (.step found rest)
          | error cause => rfl
      | _ => rfl

/-! ## Chains of all lengths -/

def link (index : Nat) : String :=
  .ofList ('k' :: Text.Decimal.ofNat index)

/-- A chain of references.  Each place leads to the one before, and the first one to a node. -/
def linked : Nat → NodeRegistry
  | 0 => ({} : NodeRegistry).insertNode (link 0) (.builtIn .bool)
  | length + 1 => (linked length).insertNode (link (length + 1)) (.ref (link length))

theorem link_injective {index other : Nat} (same : link index = link other) : index = other :=
  Text.Decimal.ofNat_injective (List.cons.inj (String.ofList_injective same)).2

theorem lookup_linked_zero (length : Nat) :
    (linked length).lookup (link 0) = .ok (.builtIn .bool) := by
  induction length with
  | zero => rw [linked, lookup_insertNode, if_pos rfl]
  | succ length ih =>
      have other : link 0 ≠ link (length + 1) := fun same => nomatch link_injective same
      rw [linked, lookup_insertNode, if_neg other]
      exact ih

theorem lookup_linked_succ {length index : Nat} (within : index < length) :
    (linked length).lookup (link (index + 1)) = .ok (.ref (link index)) := by
  induction length with
  | zero => cases within
  | succ length ih =>
      rw [linked, lookup_insertNode]
      by_cases last : index = length
      · rw [if_pos (by rw [last]), last]
      · rw [if_neg fun same => last (Nat.succ.inj (link_injective same))]
        exact ih (by omega)

/-- From each place as many references lead to the first one as there are places before. -/
theorem chain_linked {length index : Nat} (within : index ≤ length) :
    Chain (linked length).lookup index (.ref (link index)) (.ref (link 0)) := by
  induction index with
  | zero => exact .here _
  | succ index ih => exact .step (lookup_linked_succ within) (ih (Nat.le_of_succ_le within))

end NodeRegistry

namespace Codec

open NodeRegistry

variable {codec : Codec} {registry : NodeRegistry}

/-- Decoding and encoding along a node do what they do along another one, or they do not get on
because a reference leads nowhere. -/
def WalksAs (codec : Codec) (node : Node) : Except LookupError Node → Prop
  | .ok target =>
      (∀ wire, codec.decode node wire = codec.decode target wire) ∧
        ∀ value, codec.encode node value = codec.encode target value
  | .error cause =>
      (∀ wire, codec.decode node wire = .error (.defect (.unresolved cause))) ∧
        ∀ value, codec.encode node value = .error (.defect (.unresolved cause))

/-- A walk along a reference goes along what the reference leads to, followed from there. -/
theorem walksAs_ref (nodes : codec.nodes = some registry) (enough : 0 < codec.options.maxDepth)
    (key : String) : codec.WalksAs (.ref key) (registry.lookup key >>= registry.follow) := by
  obtain ⟨levels, same⟩ := Nat.exists_eq_add_of_lt enough
  rw [Nat.zero_add] at same
  cases followed : registry.lookup key >>= registry.follow with
  | ok target =>
      have behind : codec.target (.ref key) = pure target := by
        simp only [Codec.target, nodes, followed]
      obtain ⟨next, _, rest⟩ := Except.bind_eq_ok_iff.mp followed
      have notRef := isRef_of_followWith rest
      constructor
      · intro wire
        rw [decode, decode, same, decodeWithin_of_not_ref notRef, decodeWithin, behind, pure_bind]
      · intro value
        rw [encode, encode, same, encodeWithin_of_not_ref notRef, encodeWithin, behind, pure_bind]
  | error cause =>
      have behind : codec.target (.ref key) = Walk.defect (.unresolved cause) := by
        simp only [Codec.target, nodes, followed]
      constructor
      · intro wire
        rw [decode, same, decodeWithin, behind]
        rfl
      · intro value
        rw [encode, same, encodeWithin, behind]
        rfl

/-- A walk along a reference goes along the node that the registry follows it to, or it does not get
on for the same reason, unless the chain has one reference more than the registry follows, and none
after it.  Then the registry finds the chain too long, and the walk goes by what this last reference
leads to. -/
theorem walksAs_follow (nodes : codec.nodes = some registry) (enough : 0 < codec.options.maxDepth)
    (key : String) :
    ((∀ last, Chain registry.lookup maxSteps (.ref key) (.ref last) →
        ∃ next, registry.lookup last = .ok (.ref next)) →
      codec.WalksAs (.ref key) (registry.follow (.ref key))) ∧
    ∀ last, Chain registry.lookup maxSteps (.ref key) (.ref last) →
      (∀ next, registry.lookup last ≠ .ok (.ref next)) →
      registry.follow (.ref key) = .error (.tooDeep maxSteps) ∧
        codec.WalksAs (.ref key) (registry.lookup last) := by
  have walks := walksAs_ref nodes enough key
  have behind : registry.lookup key >>= registry.follow =
      followWith registry.lookup (maxSteps + 1) (.ref key) := rfl
  rw [behind] at walks
  constructor
  · intro goesOn
    by_cases tooLong : ∃ last, Chain registry.lookup maxSteps (.ref key) (.ref last)
    · obtain ⟨last, chain⟩ := tooLong
      obtain ⟨next, found⟩ := goesOn last chain
      have further : followWith registry.lookup (maxSteps + 1) (.ref key) =
          .error (.tooDeep maxSteps) := by
        rw [chain.followWith_eq 1, followWith, found]
        rfl
      rwa [chain.follow_eq, ← further]
    · rwa [followWith_succ_of_no_chain (not_exists.mp tooLong)] at walks
  · intro last chain ends
    refine ⟨chain.follow_eq, ?_⟩
    rw [chain.followWith_eq 1, followWith] at walks
    cases found : registry.lookup last with
    | error cause => rwa [found] at walks
    | ok next =>
        have notRef : next.isRef = false := by
          cases next with
          | ref again => exact absurd found (ends again)
          | _ => rfl
        rw [found] at walks
        change codec.WalksAs _ (followWith registry.lookup 0 next) at walks
        rwa [followWith_of_not_ref notRef] at walks

/-- A reference to an alias leads to the node behind it. -/
theorem walksAs_follow_of_alias :
    let registry := NodeRegistry.ofNodes [("alias", .ref "item"), ("item", .builtIn .int)]
    let codec : Codec := { types := {}, nodes := some registry }
    codec.nodes = some registry ∧ 0 < codec.options.maxDepth ∧
      registry.follow (.ref "alias") = .ok (.builtIn .int) ∧
        codec.WalksAs (.ref "alias") (.ok (.builtIn .int)) := by
  intro registry codec
  have short : Chain registry.lookup 2 (.ref "alias") (.builtIn .int) :=
    .step rfl (.step rfl (.here _))
  have followed : registry.follow (.ref "alias") = .ok (.builtIn .int) := rfl
  have walks : codec.WalksAs _ _ := (walksAs_follow rfl (by decide) "alias").1 fun last chain =>
    absurd (short.length_le rfl chain) (by decide)
  rw [followed] at walks
  exact ⟨rfl, by decide, followed, walks⟩

/-- A walk follows one reference more than the registry, for which the chain is too long. -/
theorem long_chain_walked :
    let registry := linked maxSteps
    let codec : Codec := { types := {}, nodes := some registry }
    registry.follow (.ref (link maxSteps)) = .error (.tooDeep maxSteps) ∧
      codec.decode (.ref (link maxSteps)) (.bool true) = .ok (.bool true) := by
  have chain : Chain (linked maxSteps).lookup maxSteps (.ref (link maxSteps)) (.ref (link 0)) :=
    chain_linked (Nat.le_refl _)
  have ends := lookup_linked_zero maxSteps
  generalize linked maxSteps = registry at chain ends
  intro _ codec
  have further : registry.lookup (link maxSteps) >>= registry.follow = .ok (.builtIn .bool) := by
    change followWith registry.lookup (maxSteps + 1) (.ref (link maxSteps)) = _
    rw [chain.followWith_eq 1, followWith, ends]
    rfl
  have walks : codec.WalksAs _ _ := walksAs_ref rfl (Nat.succ_pos _) (link maxSteps)
  rw [further] at walks
  exact ⟨chain.follow_eq, walks.1 (.bool true)⟩

end Codec

end Schemata
