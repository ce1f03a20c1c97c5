import Schemata.Proofs.Codec.Agreement
import Schemata.Proofs.Codec.References
import Schemata.Proofs.Node.Erasure

/-!
# Labels make no difference

Along a node without references and along the same node with all brands and names taken off, the same
values are found and the same data is refused.  A label takes a level of its own, so the nodes have
to be nested no deeper than walks go.
-/

namespace Schemata.Codec

open Walk

variable {codec : Codec} {node inner : Node} {levels more : Nat}

/-- Along a label a walk goes on below it, with one level less. -/
theorem decodeWithin_of_isLabel (label : node.isLabel = true) (below : node.children = [inner])
    (wire : Json) :
    codec.decodeWithin (levels + 1) node wire = codec.decodeWithin levels inner wire := by
  cases node with
  | branded | named =>
      cases below
      exact decodeWithin_of_not_ref rfl levels wire
  | _ => cases label

theorem encodeWithin_of_isLabel (label : node.isLabel = true) (below : node.children = [inner])
    (value : Value) :
    codec.encodeWithin (levels + 1) node value = codec.encodeWithin levels inner value := by
  cases node with
  | branded | named =>
      cases below
      exact encodeWithin_of_not_ref rfl levels value
  | _ => cases label

/-- Decoding along a node agrees with decoding along it without its labels, which takes no more
levels.  The induction is on the children: a label uses a level up on the one side only. -/
theorem agree_decodeWithin_erased (refFree : node.RefFree) (nested : node.NestedWithin levels)
    (enough : levels ≤ more) (wire : Json) :
    Agree (codec.decodeWithin levels node wire) (codec.decodeWithin more node.erased wire) := by
  induction node using Node.induction_on_children generalizing levels more wire with
  | step node ih =>
      obtain @⟨levels, _, inside⟩ := nested
      have below (child : Node) (among : child ∈ node.children) {more : Nat} (enough : levels ≤ more)
          (wire : Json) :
          Agree (codec.decodeWithin levels child wire) (codec.decodeWithin more child.erased wire) :=
        ih child among (refFree.of_mem_children among) (inside child among) enough wire
      cases label : node.isLabel with
      | true =>
          obtain ⟨inner, under, same⟩ := Node.exists_of_isLabel label
          rw [decodeWithin_of_isLabel label under, same]
          exact below inner (under ▸ List.mem_singleton_self inner) (by omega) wire
      | false =>
          obtain ⟨more, rfl⟩ := Nat.exists_eq_succ_of_ne_zero (Nat.ne_zero_of_lt enough)
          have notRef : node.isRef = false := refFree.here
          rw [decodeWithin_of_not_ref notRef,
            decodeWithin_of_not_ref ((Node.isRef_erased label).trans notRef)]
          refine agree_decodeShape (regular_decodeWithin codec levels)
            ((Node.sameShape_erased label notRef).mono_mem ?_) wire
          rintro child _ among rfl
          exact below child among (Nat.le_of_succ_le_succ enough)

/-- Encoding along a node agrees with encoding along it without its labels.  Under a cast, the one
side may not see the struct kind that the other does. -/
theorem agree_encodeWithin_erased (refFree : node.RefFree) (nested : node.NestedWithin levels)
    (enough : levels ≤ more) (value : Value) :
    Agree (codec.encodeWithin levels node value) (codec.encodeWithin more node.erased value) := by
  induction node using Node.induction_on_children generalizing levels more value with
  | step node ih =>
      obtain @⟨levels, _, inside⟩ := nested
      have below (child : Node) (among : child ∈ node.children) {more : Nat} (enough : levels ≤ more)
          (value : Value) :
          Agree (codec.encodeWithin levels child value)
            (codec.encodeWithin more child.erased value) :=
        ih child among (refFree.of_mem_children among) (inside child among) enough value
      cases label : node.isLabel with
      | true =>
          obtain ⟨inner, under, same⟩ := Node.exists_of_isLabel label
          rw [encodeWithin_of_isLabel label under, same]
          exact below inner (under ▸ List.mem_singleton_self inner) (by omega) value
      | false =>
          obtain ⟨more, rfl⟩ := Nat.exists_eq_succ_of_ne_zero (Nat.ne_zero_of_lt enough)
          have notRef : node.isRef = false := refFree.here
          have fewer : levels ≤ more := Nat.le_of_succ_le_succ enough
          rw [encodeWithin_of_not_ref notRef,
            encodeWithin_of_not_ref ((Node.isRef_erased label).trans notRef)]
          refine agree_encodeShape (regular_encodeWithin codec levels)
            ((Node.sameShape_erased label notRef).mono_mem ?_) ?_ value
          · rintro child _ among rfl
            exact below child among fewer
          · rintro inner inner' target strategy rfl same hosted
            simp only [Node.erased] at same
            obtain ⟨rfl, _, _⟩ := Node.cast.inj same
            have part := List.mem_singleton_self inner
            have free := refFree.of_mem_children part
            refine agree_flattened_bind (fun _ => below inner part fewer _) (fun fields => ?_)
              target strategy hosted
            rw [encodeWithin_fieldsValue levels free,
              encodeWithin_fieldsValue more (Node.refFree_erased free)]
            exact below inner part fewer _

/-- Brands and names have no effect on walks.  A node without references that is nested no deeper than
walks go, and the node that is left when all its brands and names are taken off, come to the same
value, or to the same keys at the same paths, or to the same fault, in either direction. -/
theorem sameResult_of_erased (codec : Codec) (node : Node) (refFree : node.RefFree)
    (nested : node.NestedWithin codec.options.maxDepth) :
    (node.erased.Everywhere fun inner => inner.isLabel = false) ∧
      (∀ wire, SameResult (codec.decode node wire) (codec.decode node.erased wire)) ∧
        ∀ value, SameResult (codec.encode node value) (codec.encode node.erased value) := by
  refine ⟨node.plain_erased, fun wire => ?_, fun value => ?_⟩
  · exact (agree_decodeWithin_erased refFree nested (Nat.le_refl _) wire).conclude
  · exact (agree_encodeWithin_erased refFree nested (Nat.le_refl _) value).conclude

/-- A list of integers under a brand and a name, which are nested exactly as deep as the walk goes. -/
theorem sameResult_of_erased_identifiers :
    let node : Node := .list (.named (.branded (.builtIn .int) "Id") "Identifier")
    let codec : Codec := { types := {}, options := { maxDepth := 4 } }
    node.RefFree ∧ node.NestedWithin 4 ∧
      (∀ wire, SameResult (codec.decode node wire) (codec.decode (.list (.builtIn .int)) wire)) ∧
        ∀ value, SameResult (codec.encode node value)
          (codec.encode (.list (.builtIn .int)) value) := by
  intro node codec
  have refFree : node.RefFree := by
    refine .intro rfl fun _ among => List.mem_singleton.mp among ▸ ?_
    refine .intro rfl fun _ among => List.mem_singleton.mp among ▸ ?_
    refine .intro rfl fun _ among => List.mem_singleton.mp among ▸ ?_
    exact .leaf rfl rfl
  have nested : node.NestedWithin 4 := by
    refine .intro fun _ among => List.mem_singleton.mp among ▸ ?_
    refine .intro fun _ among => List.mem_singleton.mp among ▸ ?_
    refine .intro fun _ among => List.mem_singleton.mp among ▸ ?_
    exact .intro fun _ nothing => nomatch nothing
  have same := sameResult_of_erased codec node refFree nested
  exact ⟨refFree, nested, same.2.1, same.2.2⟩

end Schemata.Codec
