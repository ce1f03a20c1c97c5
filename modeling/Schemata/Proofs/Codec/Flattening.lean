import Schemata.Parser.Grammar
import Schemata.Proofs.Codec.Levels
import Schemata.Proofs.Codec.Success
import Schemata.Proofs.Node.WellFormed

/-!
# Flattened unions

A union without discriminator that is a member of another one can give its place to its own members.
The members are tried in the same order, a member that takes the data is the same, and where none
does the report of the inner union is dropped and the outer one describes the same alternatives.
-/

namespace Schemata

/-- Texts that are joined in groups, and then group by group, are joined one by one. -/
theorem intercalate_flatten (separator : String) {groups : List (List String)}
    (filled : ∀ group ∈ groups, group ≠ []) :
    String.intercalate separator (groups.map (String.intercalate separator)) =
      String.intercalate separator groups.flatten := by
  induction groups with
  | nil => rfl
  | cons group rest ih =>
      obtain ⟨here, later⟩ := List.forall_mem_cons.mp filled
      cases rest with
      | nil => simp
      | cons next others =>
          have more : (next :: others).flatten ≠ [] := by
            rw [List.flatten_cons]
            exact List.append_ne_nil_of_left_ne_nil (later next List.mem_cons_self) _
          rw [List.map_cons, String.intercalate_cons_of_ne_nil (by simp), ih later]
          exact (String.intercalate_append_of_ne_nil here more).symm

namespace Walk

variable {α β : Type} {walk : β → Walk α}

/-- Trying choices is no failure, even if none of them comes to a value. -/
theorem verdict_firstOf_ne_invalid (steady : ∀ choice, Steady (walk choice)) (choices : List β) :
    (firstOf walk choices).verdict ≠ .error .invalid := by
  induction choices with
  | nil => exact nofun
  | cons choice rest ih =>
      rw [verdict_firstOf_cons fun other _ => steady other]
      cases (walk choice).verdict with
      | ok value => exact nofun
      | error stop =>
          cases stop with
          | absent | invalid => exact ih
          | defect fault => exact nofun

/-- The choices behind some others are tried when none of these comes to a value. -/
theorem verdict_firstOf_append (steady : ∀ choice, Steady (walk choice)) (before after : List β) :
    (firstOf walk (before ++ after)).verdict = (firstOf walk before).verdict >>= fun found =>
      match found with
      | some value => .ok (some value)
      | none => (firstOf walk after).verdict := by
  induction before with
  | nil => rfl
  | cons choice rest ih =>
      rw [List.cons_append, verdict_firstOf_cons fun other _ => steady other,
        verdict_firstOf_cons fun other _ => steady other, ih]
      cases tried (walk choice).verdict with
      | error stop => rfl
      | ok found => cases found <;> rfl

/-- Two walks that come to the same, and not to a failure of their own, leave the same result to what
follows them. -/
theorem conclude_bind_congr {left right : Walk α} (steady : Steady left) (steady' : Steady right)
    (same : left.verdict = right.verdict) (valid : left.verdict ≠ .error .invalid)
    (next : α → Walk β) : conclude (left >>= next) = conclude (right >>= next) := by
  have here := steady {}
  have there := steady' {}
  rw [← same] at there
  unfold conclude
  cases outcome : left.verdict with
  | ok value =>
      rw [outcome] at here there
      rw [EStateM.bind_of_ok here, EStateM.bind_of_ok there]
  | error stop =>
      rw [outcome] at here there
      obtain ⟨present, _, run, _⟩ := here
      obtain ⟨_, _, run', _⟩ := there
      rw [EStateM.bind_of_error run, EStateM.bind_of_error run']
      cases stop with
      | absent => exact absurd rfl present
      | invalid => exact absurd outcome valid
      | defect fault => rfl

/-! ## Nested choices -/

/-- What a member of a union comes to as a choice, when its own members can stand in its place. -/
theorem verdict_firstOf_flattened {walk : Node → Walk α} (steady : ∀ node, Steady (walk node))
    {member : Node} (opens : ∀ inner, member = .union inner none →
      (walk member).verdict = (firstOf walk inner).verdict >>= Codec.first) :
    (firstOf walk (Parser.flattened member)).verdict = tried (walk member).verdict := by
  have alone : (firstOf walk [member]).verdict = tried (walk member).verdict := by
    rw [verdict_firstOf_cons fun other _ => steady other]
    cases tried (walk member).verdict with
    | error stop => rfl
    | ok found => cases found <;> rfl
  unfold Parser.flattened
  split
  next inner =>
    rw [opens inner rfl]
    cases outcome : (firstOf walk inner).verdict with
    | ok found => cases found <;> rfl
    | error stop =>
        cases stop with
        | absent => exact absurd outcome (steady_firstOf fun other _ => steady other).ne_absent
        | invalid => exact absurd outcome (verdict_firstOf_ne_invalid steady inner)
        | defect fault => rfl
  next => exact alone

/-- Choices come to the same when the members of a union stand in its place. -/
theorem verdict_firstOf_flatMap {walk : Node → Walk α} (steady : ∀ node, Steady (walk node))
    {members : List Node} (opens : ∀ inner, .union inner none ∈ members →
      (walk (.union inner none)).verdict = (firstOf walk inner).verdict >>= Codec.first) :
    (firstOf walk members).verdict =
      (firstOf walk (members.flatMap Parser.flattened)).verdict := by
  induction members with
  | nil => rfl
  | cons member rest ih =>
      have here : ∀ inner, member = .union inner none →
          (walk member).verdict = (firstOf walk inner).verdict >>= Codec.first := by
        rintro inner rfl
        exact opens inner List.mem_cons_self
      rw [List.flatMap_cons, verdict_firstOf_append steady, verdict_firstOf_flattened steady here,
        ← ih fun inner among => opens inner (List.mem_cons_of_mem _ among)]
      refine (verdict_firstOf_cons fun other _ => steady other).trans (bind_congr fun found => ?_)
      cases found <;> rfl

end Walk

/-! ## Flat unions -/

namespace Node

variable {members : List Node}

theorem flattened_ne_nil (member : Node)
    (filled : ∀ inner, member = .union inner none → inner ≠ []) :
    Parser.flattened member ≠ [] := by
  unfold Parser.flattened
  split
  next inner => exact filled inner rfl
  next => exact List.cons_ne_nil _ _

/-- A union is written as the one with the members of its unions in their place. -/
theorem canonical_union_flatMap
    (filled : ∀ inner, .union inner none ∈ members → inner ≠ []) :
    canonical (.union members none) =
      canonical (.union (members.flatMap Parser.flattened) none) := by
  have own (member : Node) : member.canonical =
      String.intercalate "|" ((Parser.flattened member).map canonical) := by
    unfold Parser.flattened
    split
    · exact canonical_union _ _
    · rw [List.map_singleton, String.intercalate_singleton]
  have groups : ∀ group ∈ members.map fun member => (Parser.flattened member).map canonical,
      group ≠ [] := by
    intro group among
    obtain ⟨member, listed, rfl⟩ := List.mem_map.mp among
    rw [Ne, List.map_eq_nil_iff]
    exact flattened_ne_nil member fun inner same => filled inner (same ▸ listed)
  have joined := intercalate_flatten "|" groups
  rw [List.map_map] at joined
  rw [canonical_union, canonical_union, List.map_flatMap, List.flatMap_def, ← joined]
  exact congrArg _ (List.map_congr_left fun member _ => own member)

/-- There are at least as many members when unions are flattened. -/
theorem length_le_flatMap (filled : ∀ inner, .union inner none ∈ members → inner ≠ []) :
    members.length ≤ (members.flatMap Parser.flattened).length := by
  induction members with
  | nil => exact Nat.le_refl 0
  | cons member rest ih =>
      have here := List.length_pos_iff.mpr (flattened_ne_nil member fun inner same =>
        filled inner (same ▸ List.mem_cons_self))
      have later := ih fun inner among => filled inner (List.mem_cons_of_mem _ among)
      rw [List.flatMap_cons, List.length_append, List.length_cons]
      omega

theorem refFree_flatMap (refFree : (Node.union members none).RefFree) :
    (Node.union (members.flatMap Parser.flattened) none).RefFree := by
  refine .intro rfl fun child among => ?_
  obtain ⟨member, listed, inside⟩ := List.mem_flatMap.mp among
  have whole : member.RefFree := refFree.of_mem_children listed
  unfold Parser.flattened at inside
  split at inside
  · exact whole.of_mem_children inside
  · obtain rfl := List.mem_singleton.mp inside
    exact whole

end Node

namespace Codec

open Walk

variable {codec : Codec} {node : Node} {members inner : List Node} {levels : Nat}

/-- A node without references is described by its canonical form, whatever a registry holds. -/
theorem describe_of_refFree (refFree : node.RefFree) : codec.describe node = node.canonical := by
  unfold describe
  cases codec.nodes with
  | none => rfl
  | some nodes =>
      dsimp only
      cases resolves : nodes.resolve node with
      | ok resolved => rw [NodeRegistry.eq_of_resolveWith refFree resolves]
      | error cause => rfl

/-- A union that is nested no deeper than its walk goes tries its members, which have levels to
spare. -/
theorem verdict_decodeWithin_union (refFree : (Node.union inner none).RefFree)
    (nested : (Node.union inner none).NestedWithin levels) (wire : Json) :
    (codec.decodeWithin levels (.union inner none) wire).verdict =
      (firstOf (codec.decodeWithin levels · wire) inner).verdict >>= first := by
  obtain @⟨levels, _, inside⟩ := nested
  have spare : ∀ child ∈ inner,
      codec.decodeWithin levels child wire = codec.decodeWithin (levels + 1) child wire :=
    fun child among => (SameButDepth.refl codec).decodeWithin_eq (refFree.of_mem_children among)
      (inside child among) ((inside child among).mono (Nat.le_succ _)) wire
  rw [decodeWithin_of_not_ref rfl, decodeShape,
    verdict_decodeFirst fun child _ => steady_decodeWithin codec levels child wire,
    firstOf_congr (List.forall₂_same.mpr spare)]

theorem verdict_encodeWithin_union (refFree : (Node.union inner none).RefFree)
    (nested : (Node.union inner none).NestedWithin levels) (value : Value) :
    (codec.encodeWithin levels (.union inner none) value).verdict =
      (firstOf (codec.encodeWithin levels · value) inner).verdict >>= first := by
  obtain @⟨levels, _, inside⟩ := nested
  have spare : ∀ child ∈ inner,
      codec.encodeWithin levels child value = codec.encodeWithin (levels + 1) child value :=
    fun child among => (SameButDepth.refl codec).encodeWithin_eq (refFree.of_mem_children among)
      (inside child among) ((inside child among).mono (Nat.le_succ _)) value
  rw [encodeWithin_of_not_ref rfl, encodeShape]
  dsimp only [Option.bind_none]
  rw [verdict_encodeFirst fun child _ => steady_encodeWithin codec levels child value,
    firstOf_congr (List.forall₂_same.mpr spare)]

section

variable (filled : ∀ inner, .union inner none ∈ members → inner ≠ [])
  (refFree : (Node.union members none).RefFree)
include filled refFree

theorem describe_union_flatMap (codec : Codec) : codec.describe (.union members none) =
    codec.describe (.union (members.flatMap Parser.flattened) none) := by
  rw [describe_of_refFree refFree, describe_of_refFree (Node.refFree_flatMap refFree),
    Node.canonical_union_flatMap filled]

/-- A union is decoded like the one with the members of its unions in their place. -/
theorem decode_union_flatMap (nested : (Node.union members none).NestedWithin codec.options.maxDepth)
    (wire : Json) : codec.decode (.union members none) wire =
      codec.decode (.union (members.flatMap Parser.flattened) none) wire := by
  have described := describe_union_flatMap filled refFree codec
  unfold decode
  generalize codec.options.maxDepth = depth at nested ⊢
  obtain @⟨levels, _, inside⟩ := nested
  have steady (node : Node) := steady_decodeWithin codec levels node wire
  have same := verdict_firstOf_flatMap steady fun inner among =>
    verdict_decodeWithin_union (refFree.of_mem_children among) (inside _ among) wire
  rw [decodeWithin_of_not_ref rfl, decodeWithin_of_not_ref rfl]
  simp only [decodeShape, decodeFirst, described]
  exact conclude_bind_congr (steady_firstOf fun node _ => steady node)
    (steady_firstOf fun node _ => steady node) same (verdict_firstOf_ne_invalid steady members) _

/-- A union is encoded like the one with the members of its unions in their place. -/
theorem encode_union_flatMap (nested : (Node.union members none).NestedWithin codec.options.maxDepth)
    (value : Value) : codec.encode (.union members none) value =
      codec.encode (.union (members.flatMap Parser.flattened) none) value := by
  have described := describe_union_flatMap filled refFree codec
  unfold encode
  generalize codec.options.maxDepth = depth at nested ⊢
  obtain @⟨levels, _, inside⟩ := nested
  have steady (node : Node) := steady_encodeWithin codec levels node value
  have same := verdict_firstOf_flatMap steady fun inner among =>
    verdict_encodeWithin_union (refFree.of_mem_children among) (inside _ among) value
  rw [encodeWithin_of_not_ref rfl, encodeWithin_of_not_ref rfl]
  simp only [encodeShape, encodeFirst, Option.bind_none, described]
  exact conclude_bind_congr (steady_firstOf fun node _ => steady node)
    (steady_firstOf fun node _ => steady node) same (verdict_firstOf_ne_invalid steady members) _

end

/-- Flattening keeps what a union means.  When the union of some members without references is built,
so is the union of the flattened members; no union among them is empty, as none is that is built.  If
the union is nested no deeper than walks go, the two come to the same results in either direction,
with the same issues and all they say. -/
theorem walks_eq_of_flattened (members : List Node)
    (refFree : ∀ member ∈ members, member.RefFree)
    (filled : ∀ inner, .union inner none ∈ members → inner ≠ [])
    {union : Node} (built : Node.unionOf members = .ok union) :
    ∃ flat, Node.unionOf (members.flatMap Parser.flattened) = .ok flat ∧
      ∀ codec : Codec, union.NestedWithin codec.options.maxDepth →
        (∀ wire, codec.decode union wire = codec.decode flat wire) ∧
          ∀ value, codec.encode union value = codec.encode flat value := by
  obtain ⟨several, rfl⟩ := Node.unionOf_eq_ok_iff.mp built
  have longer := Node.length_le_flatMap filled
  have free : (Node.union members none).RefFree := .intro rfl refFree
  refine ⟨.union (members.flatMap Parser.flattened) none, ?_, fun codec nested => ⟨?_, ?_⟩⟩
  · exact Node.unionOf_eq_ok_iff.mpr ⟨by omega, rfl⟩
  · exact decode_union_flatMap filled free nested
  · exact encode_union_flatMap filled free nested

/-- A choice of three types in two steps and in one. -/
theorem walks_eq_of_flattened_scalars :
    let nullable : Node := .union [.builtIn .int, .builtIn .null] none
    let union : Node := .union [nullable, .builtIn .string] none
    let flat : Node := .union [.builtIn .int, .builtIn .null, .builtIn .string] none
    let codec : Codec := { types := {}, options := { maxDepth := 3 } }
    Node.unionOf [nullable, .builtIn .string] = .ok union ∧ union.NestedWithin 3 ∧
      (∀ wire, codec.decode union wire = codec.decode flat wire) ∧
        ∀ value, codec.encode union value = codec.encode flat value := by
  intro nullable union flat codec
  have refFree : ∀ member ∈ [nullable, .builtIn .string], member.RefFree := by
    refine List.forall_mem_cons.mpr ⟨?_, List.forall_mem_singleton.mpr (.leaf rfl rfl)⟩
    exact .intro rfl (List.forall_mem_cons.mpr
      ⟨.leaf rfl rfl, List.forall_mem_singleton.mpr (.leaf rfl rfl)⟩)
  have filled : ∀ inner, .union inner none ∈ [nullable, .builtIn .string] → inner ≠ [] := by
    intro inner among
    rcases List.mem_pair.mp among with same | same
    · obtain ⟨rfl, _⟩ := Node.union.inj same
      exact List.cons_ne_nil _ _
    · cases same
  have leaf (levels : Nat) (kind : BuiltIn) : (Node.builtIn kind).NestedWithin (levels + 1) :=
    .intro fun _ nothing => nomatch nothing
  have nested : union.NestedWithin 3 := by
    refine .intro (List.forall_mem_cons.mpr ⟨?_, List.forall_mem_singleton.mpr (leaf 1 .string)⟩)
    exact .intro (List.forall_mem_cons.mpr
      ⟨leaf 0 .int, List.forall_mem_singleton.mpr (leaf 0 .null)⟩)
  have built : Node.unionOf [nullable, .builtIn .string] = .ok union := rfl
  obtain ⟨found, same, walks⟩ :=
    walks_eq_of_flattened [nullable, .builtIn .string] refFree filled built
  obtain rfl : flat = found := Except.ok.inj same
  exact ⟨built, nested, walks codec nested⟩

end Codec

end Schemata
