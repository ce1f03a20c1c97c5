import Schemata.Proofs.Codec.Accounting
import Schemata.Proofs.Codec.References
import Schemata.Proofs.Node.Nesting
import Schemata.Proofs.Node.References

/-!
# Levels to spare

A walk along a node without references needs as many levels as nodes stand one within the other.
With any more levels it is the same walk, whatever limit its codec has.  An issue that tells of the
depth names that limit, so that such a walk reports none.
-/

namespace Schemata.Codec

/-- Two codecs that differ at most in how deep their walks go. -/
structure SameButDepth (left right : Codec) : Prop where
  types : left.types = right.types
  nodes : left.nodes = right.nodes
  coerces : left.options.coercePrimitives = right.options.coercePrimitives

namespace SameButDepth

variable {left right : Codec} {node : Node} {levels more : Nat}

theorem refl (codec : Codec) : SameButDepth codec codec :=
  ⟨rfl, rfl, rfl⟩

variable (same : SameButDepth left right)
include same

theorem describe_eq (node : Node) : left.describe node = right.describe node := by
  rw [describe, describe, same.nodes]

/-- Decoding with enough levels does not depend on how many there are. -/
theorem decodeWithin_eq (refFree : node.RefFree) (nested : node.NestedWithin levels)
    (nested' : node.NestedWithin more) (wire : Json) :
    left.decodeWithin levels node wire = right.decodeWithin more node wire := by
  induction node using Node.induction_on_children generalizing levels more wire with
  | step node ih =>
      obtain ⟨inside⟩ := nested
      obtain ⟨inside'⟩ := nested'
      rw [decodeWithin_of_not_ref refFree.here, decodeWithin_of_not_ref refFree.here]
      have shape := Node.SameShape.refl_mem refFree.here fun child among =>
        WalkedAlike.mk (same.describe_eq child)
          (ih child among (refFree.of_mem_children among) (inside child among)
            (inside' child among))
      exact decodeShape_congr same.types same.coerces shape (same.describe_eq node) wire

/-- Encoding with enough levels does not depend on how many there are. -/
theorem encodeWithin_eq (refFree : node.RefFree) (nested : node.NestedWithin levels)
    (nested' : node.NestedWithin more) (value : Value) :
    left.encodeWithin levels node value = right.encodeWithin more node value := by
  induction node using Node.induction_on_children generalizing levels more value with
  | step node ih =>
      obtain ⟨inside⟩ := nested
      obtain ⟨inside'⟩ := nested'
      rw [encodeWithin_of_not_ref refFree.here, encodeWithin_of_not_ref refFree.here]
      have shape := Node.SameShape.refl_mem refFree.here fun child among =>
        WalkedAlike.mk (same.describe_eq child)
          (ih child among (refFree.of_mem_children among) (inside child among)
            (inside' child among))
      refine encodeShape_congr same.types shape ?_ (same.describe_eq node) value
      rintro inner _ target strategy rfl ⟨⟩ hosted
      have part := List.mem_singleton_self inner
      have below := ih inner part (refFree.of_mem_children part) (inside inner part)
        (inside' inner part)
      exact flattened_bind_congr same.types (same.describe_eq inner) (fun _ => below _)
        (fun _ => below _) target strategy hosted

end SameButDepth

/-- The codec with another limit. -/
def limitedTo (codec : Codec) (limit : Nat) : Codec :=
  { codec with options := { codec.options with maxDepth := limit } }

theorem sameButDepth_limitedTo (codec : Codec) (limit : Nat) :
    SameButDepth codec (codec.limitedTo limit) :=
  ⟨rfl, rfl, rfl⟩

/-- A walk that could be one of codecs with different limits tells of no depth. -/
theorem key_ne_of_regular {α : Type} (codec : Codec) {walk : Walk α}
    (regular : ∀ limit, Walk.Regular (codec.limitedTo limit) walk) {failure : Failure}
    (failed : walk.conclude = .error (.invalid failure)) {path : String} {issue : Issue}
    (reported : (path, issue) ∈ failure.issues.entries) : issue.key ≠ "depth_exceeded" := by
  intro depth
  have named (limit : Nat) : issue = .depthExceeded limit := by
    obtain ⟨below, found, _, names, single⟩ := (regular limit).issues_of_conclude failed
    rw [single, Issues.entries, List.flatMap_singleton] at reported
    obtain ⟨issue, among, same⟩ := List.mem_map.1 reported
    cases same
    exact names issue among depth
  have equal : Issue.depthExceeded 0 = .depthExceeded 1 := (named 0).symm.trans (named 1)
  cases congrArg Issue.debug equal

/-- Limits that leave a node without references enough levels make no difference.  Whatever the data
is, however deep, it is decoded alike, and values are encoded alike.  No failure tells of the
depth. -/
theorem walks_eq_of_nestedWithin {left right : Codec} {node : Node} {levels : Nat}
    (same : SameButDepth left right) (refFree : node.RefFree) (nested : node.NestedWithin levels)
    (enough : levels ≤ left.options.maxDepth) (enough' : levels ≤ right.options.maxDepth) :
    (∀ wire, left.decode node wire = right.decode node wire) ∧
    (∀ value, left.encode node value = right.encode node value) ∧
    (∀ wire failure, left.decode node wire = .error (.invalid failure) →
      ∀ path issue, (path, issue) ∈ failure.issues.entries → issue.key ≠ "depth_exceeded") ∧
    (∀ value failure, left.encode node value = .error (.invalid failure) →
      ∀ path issue, (path, issue) ∈ failure.issues.entries → issue.key ≠ "depth_exceeded") := by
  have within := nested.mono enough
  have within' := nested.mono enough'
  refine ⟨fun wire => ?_, fun value => ?_, ?_, ?_⟩
  · rw [decode, decode, same.decodeWithin_eq refFree within within']
  · rw [encode, encode, same.encodeWithin_eq refFree within within']
  · intro wire failure failed path issue reported
    refine key_ne_of_regular left (fun limit => ?_) failed reported
    rw [(left.sameButDepth_limitedTo limit).decodeWithin_eq refFree within within]
    exact regular_decodeWithin _ _ _ _
  · intro value failure failed path issue reported
    refine key_ne_of_regular left (fun limit => ?_) failed reported
    rw [(left.sameButDepth_limitedTo limit).encodeWithin_eq refFree within within]
    exact regular_encodeWithin _ _ _ _

/-- A union of lists, which are tried in turn.  With the levels it needs and with more, a list of
texts is taken by the second, and nested lists are refused, though not for their depth. -/
theorem walks_eq_of_trials :
    let node : Node := .union [.list (.builtIn .int), .list (.builtIn .string)] none
    let left : Codec := { types := {}, options := { maxDepth := 3 } }
    let right : Codec := { types := {} }
    let nestedLists : Json := .array [.array [.array [.array [.array []]]]]
    node.RefFree ∧ node.NestedWithin 3 ∧
      left.decode node (.array [.string "a"]) = .ok (.list [.string "a"]) ∧
      right.decode node (.array [.string "a"]) = .ok (.list [.string "a"]) ∧
      ∃ failure, left.decode node nestedLists = .error (.invalid failure) ∧
        right.decode node nestedLists = .error (.invalid failure) ∧
        ∀ path issue, (path, issue) ∈ failure.issues.entries →
          issue.key ≠ "depth_exceeded" := by
  intro node left right nestedLists
  have refFree : node.RefFree := Node.refs_eq_nil_iff.1 rfl
  have leaf (kind : BuiltIn) : (Node.builtIn kind).NestedWithin 1 := .intro nofun
  have row (kind : BuiltIn) : (Node.list (.builtIn kind)).NestedWithin 2 :=
    .intro (List.forall_mem_singleton.2 (leaf kind))
  have nested : node.NestedWithin 3 :=
    .intro (List.forall_mem_cons.2 ⟨row .int, List.forall_mem_singleton.2 (row .string)⟩)
  have same : SameButDepth left right := ⟨rfl, rfl, rfl⟩
  obtain ⟨decoded, _, told, _⟩ :=
    walks_eq_of_nestedWithin same refFree nested (Nat.le_refl 3) (by decide)
  have accepted : left.decode node (.array [.string "a"]) = .ok (.list [.string "a"]) := rfl
  refine ⟨refFree, nested, accepted, (decoded _).symm.trans accepted, _, rfl, ?_, ?_⟩
  · exact (decoded nestedLists).symm
  · exact told nestedLists _ rfl

end Schemata.Codec
