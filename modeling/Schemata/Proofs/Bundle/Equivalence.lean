import Schemata.Proofs.Bundle.Restoration
import Schemata.Proofs.Codec.Order

/-!
# Walks through a bundle

Where a bundle gives its schemas back, data is decoded and encoded along a root of the bundle
exactly as along the schema itself.  Where it does not, the two can differ.
-/

namespace Schemata.Bundle

open Node NodeRegistry Sharing

variable {schemas : Dict Node} {bundle : Bundle}

/-- A bundle gives its schemas back exactly when their parts are told apart by their canonical
forms, and every schema is then decoded and encoded through the bundle as it is without it. -/
theorem walks_eq_of_compile (refFree : AllRefFree schemas) (compiled : compile schemas = .ok bundle)
    (resolvable : ∀ root ∈ bundle.roots, ∃ resolved, bundle.registry.resolve root.2 = .ok resolved)
    (free : CollisionFree (partsOf schemas)) :
    (bundle.Restores schemas ↔ ToldApart (partsOf schemas)) ∧
      (ToldApart (partsOf schemas) →
        ∀ name node, Dict.get? schemas name = some node →
          ∃ root, bundle.root? name = some root ∧
            ∀ (types : TypeRegistry) (options : CodecOptions),
              let shared : Codec := { types, nodes := some bundle.registry, options }
              let plain : Codec := { types, options }
              (∀ wire, shared.decode root wire = plain.decode node wire) ∧
                ∀ value, shared.encode root value = plain.encode node value) := by
  have given := restores_iff_toldApart refFree compiled resolvable free
  refine ⟨given, fun apart name node found => ?_⟩
  refine ⟨node.stub, root?_of_compile refFree compiled found, fun types options => ?_⟩
  intro shared plain
  obtain ⟨resolved, success, same⟩ := (restores_iff_of_compile refFree compiled).mp
    (given.mpr apart) _ (Dict.mem_of_get?_eq_some found)
  have reaches := Resolves.of_resolve success
  have unfolded : Codec.Unfolded shared plain bundle.registry := ⟨rfl, rfl, rfl, fun _ => rfl⟩
  have described : plain.DescribesSorted := Codec.describesSorted_of_nodes_none rfl
  constructor
  · intro wire
    rw [Codec.decode, Codec.decode, unfolded.decodeWithin_eq _ reaches,
      Codec.decodeWithin_eq_of_sorted_eq described _ same]
  · intro value
    rw [Codec.encode, Codec.encode, unfolded.encodeWithin_eq _ reaches,
      Codec.encodeWithin_eq_of_sorted_eq described _ same]

/-- Two schemas that share one leaf. -/
def counters : Dict Node :=
  [("count", .builtIn .int), ("counts", .list (.builtIn .int))]

theorem refFree_counters : AllRefFree counters := by
  have leaf : (Node.builtIn .int).RefFree := .leaf rfl rfl
  intro schema member
  rcases List.mem_pair.mp member with rfl | rfl
  · exact leaf
  · refine .intro rfl fun child inside => ?_
    obtain rfl := List.mem_singleton.mp inside
    exact leaf

theorem eq_int_of_mem_counters {part : Node} (member : part ∈ partsOf counters) :
    part = .builtIn .int := by
  rcases List.mem_pair.mp member with rfl | rfl
  · rfl
  · rfl

/-- The leaf that both schemas share is told apart from nothing else. -/
theorem walks_eq_of_counters :
    ∃ bundle, compile counters = .ok bundle ∧ AllRefFree counters ∧
      (∀ root ∈ bundle.roots, ∃ resolved, bundle.registry.resolve root.2 = .ok resolved) ∧
      CollisionFree (partsOf counters) ∧ ToldApart (partsOf counters) ∧
      ∃ root, bundle.root? "counts" = some root ∧
        ∀ (types : TypeRegistry) (options : CodecOptions),
          let shared : Codec := { types, nodes := some bundle.registry, options }
          let plain : Codec := { types, options }
          (∀ wire, shared.decode root wire = plain.decode (.list (.builtIn .int)) wire) ∧
            ∀ value, shared.encode root value = plain.encode (.list (.builtIn .int)) value := by
  obtain ⟨bundle, compiled⟩ : ∃ bundle, compile counters = .ok bundle :=
    ⟨_, compile_eq refFree_counters⟩
  have free : CollisionFree (partsOf counters) := by
    intro first one second two _
    rw [eq_int_of_mem_counters one, eq_int_of_mem_counters two]
  have apart : ToldApart (partsOf counters) := by
    intro first one second two _
    rw [eq_int_of_mem_counters one, eq_int_of_mem_counters two]
  have look : bundle.registry.lookup (contentKey (.builtIn .int)) = .ok (.builtIn .int) := by
    have found : Dict.get? ((partsOf counters).map fun part => (part.contentKey, part.kept))
        (contentKey (.builtIn .int)) = some (.builtIn .int) :=
      (Dict.get?_cons _ _ _).trans (if_pos rfl)
    rw [lookup_of_compile refFree_counters compiled, found]
  have resolvable : ∀ root ∈ bundle.roots,
      ∃ resolved, bundle.registry.resolve root.2 = .ok resolved := by
    intro root member
    rw [bundle_eq_of_compile refFree_counters compiled] at member
    rcases List.mem_pair.mp member with rfl | rfl
    · exact ⟨.builtIn .int, Except.bind_eq_ok_iff.mpr ⟨_, look, rfl⟩⟩
    · exact ⟨.list (.builtIn .int), Except.bind_eq_ok_iff.mpr
        ⟨_, Except.bind_eq_ok_iff.mpr ⟨_, look, rfl⟩, rfl⟩⟩
  exact ⟨bundle, compiled, refFree_counters, resolvable, free, apart,
    (walks_eq_of_compile refFree_counters compiled resolvable free).2 apart "counts" _ rfl⟩

/-! ## Parts that are written alike -/

/-- A struct that holds one integer under some names. -/
def pinned (names : List String) (value : Int64) : Node :=
  .struct .array (names.map fun name => ⟨name, .literal (.int value), false, .both⟩)

/-- A struct of a union, whose discriminator is the first name of the first arm. -/
def choice (first second : String) : Node :=
  .struct .array [⟨"p", .union [pinned [first, second] 1, pinned ["x", "y"] 2]
    (some { field := first, arms := [("1", 0), ("2", 1)] }), false, .both⟩]

example : Discriminator.infer? [pinned ["y", "x"] 1, pinned ["x", "y"] 2] =
    some { field := "y", arms := [("1", 0), ("2", 1)] } := by decide +kernel

/-- Two schemas that are written alike and select their arms by different fields. -/
def twins : Dict Node :=
  [("a", choice "x" "y"), ("b", choice "y" "x")]

/-- The content keys of the parts of the twins with the canonical forms behind them. -/
def twinTexts : List (String × String) :=
  [("6b86b273ff34fce19d6b804eff5a3f5747ada4eaa22f1d49c01e52ddb7875b4b", "1"),
    ("4fd3d43ea559667622eaf5e9187bc8f4b007ffa29c5962f7220b6f03f1d62144", "array\x7bx: 1, y: 1\x7d"),
    ("d4735e3a265e16eee03f59718b9b5d03019c07d8b6c51f90da3a666eec13ab35", "2"),
    ("185f78de21e8ac9d579d08aba2572ca1f1b0050ca662635ede007551fec7b74e", "array\x7bx: 2, y: 2\x7d"),
    ("7bb300dffa9104e526dec5ec56e8a93aa1acaf08f5b32265a84360ea6df07033",
      "array\x7bp: array\x7bx: 1, y: 1\x7d|array\x7bx: 2, y: 2\x7d\x7d")]

theorem hexDigest_of_mem_twinTexts :
    ∀ entry ∈ twinTexts, Sha256.hexDigest entry.2 = entry.1 := by
  decide +kernel

def twinKey (place : Nat) : String :=
  (twinTexts.map Prod.fst).getD place ""

theorem canonical_pinned :
    (pinned ["x", "y"] 1).canonical = "array\x7bx: 1, y: 1\x7d" ∧
      (pinned ["y", "x"] 1).canonical = "array\x7bx: 1, y: 1\x7d" ∧
        (pinned ["x", "y"] 2).canonical = "array\x7bx: 2, y: 2\x7d" := by
  simp only [pinned, canonical_struct, List.map, sortedProperties_pair]
  decide +kernel

theorem canonical_choice :
    (choice "x" "y").canonical = "array\x7bp: array\x7bx: 1, y: 1\x7d|array\x7bx: 2, y: 2\x7d\x7d" ∧
      (choice "y" "x").canonical =
        "array\x7bp: array\x7bx: 1, y: 1\x7d|array\x7bx: 2, y: 2\x7d\x7d" := by
  simp only [choice, canonical_struct, sortedProperties_singleton, List.map, propertyText,
    canonical_union, canonical_pinned]
  decide +kernel

theorem contentKey_twins :
    (Node.literal (.int 1)).contentKey = twinKey 0 ∧
      (Node.literal (.int 2)).contentKey = twinKey 2 ∧
        (pinned ["x", "y"] 1).contentKey = twinKey 1 ∧
          (pinned ["y", "x"] 1).contentKey = twinKey 1 ∧
            (pinned ["x", "y"] 2).contentKey = twinKey 3 ∧
              (choice "x" "y").contentKey = twinKey 4 ∧
                (choice "y" "x").contentKey = twinKey 4 := by
  have one : (Node.literal (.int 1)).canonical = "1" := rfl
  have two : (Node.literal (.int 2)).canonical = "2" := rfl
  have digests := hexDigest_of_mem_twinTexts
  simp only [twinTexts, List.forall_mem_cons] at digests
  simp [contentKey, one, two, canonical_pinned, canonical_choice, digests, twinKey, twinTexts]

theorem partsOf_twins :
    partsOf twins =
      [.literal (.int 1), .literal (.int 1), pinned ["x", "y"] 1,
        .literal (.int 2), .literal (.int 2), pinned ["x", "y"] 2, choice "x" "y",
        .literal (.int 1), .literal (.int 1), pinned ["y", "x"] 1,
        .literal (.int 2), .literal (.int 2), pinned ["x", "y"] 2, choice "y" "x"] := rfl

/-- Every part of the twins is written as one of their texts. -/
theorem text_of_mem_twins :
    ∀ part ∈ partsOf twins, ∃ entry ∈ twinTexts, part.canonical = entry.2 := by
  have one : (Node.literal (.int 1)).canonical = "1" := rfl
  have two : (Node.literal (.int 2)).canonical = "2" := rfl
  simp [partsOf_twins, one, two, canonical_pinned, canonical_choice, twinTexts]

theorem collisionFree_twins : CollisionFree (partsOf twins) := by
  have distinct : ∀ entry ∈ twinTexts, ∀ other ∈ twinTexts,
      entry.1 = other.1 → entry.2 = other.2 := by
    decide
  intro first one second two same
  obtain ⟨entry, among, text⟩ := text_of_mem_twins first one
  obtain ⟨other, among', text'⟩ := text_of_mem_twins second two
  rw [contentKey, contentKey, text, text', hexDigest_of_mem_twinTexts _ among,
    hexDigest_of_mem_twinTexts _ among'] at same
  rw [text, text', distinct entry among other among' same]

theorem refFree_pinned (names : List String) (value : Int64) : (pinned names value).RefFree := by
  refine .intro rfl fun child member => ?_
  obtain ⟨property, among, rfl⟩ := List.mem_map.mp member
  obtain ⟨name, _, rfl⟩ := List.mem_map.mp among
  exact .leaf rfl rfl

theorem refFree_choice (first second : String) : (choice first second).RefFree := by
  refine .intro rfl fun child member => ?_
  obtain rfl := List.mem_singleton.mp member
  refine .intro rfl fun child member => ?_
  rcases List.mem_pair.mp member with rfl | rfl
  · exact refFree_pinned _ _
  · exact refFree_pinned _ _

theorem refFree_twins : AllRefFree twins := by
  intro schema member
  rcases List.mem_pair.mp member with rfl | rfl
  · exact refFree_choice _ _
  · exact refFree_choice _ _

/-- The first twin stands for both in the table. -/
theorem resolve_twins (compiled : compile twins = .ok bundle) :
    bundle.registry.resolve (.ref (twinKey 4)) = .ok (choice "x" "y") := by
  have look (place : Nat) := lookup_of_compile refFree_twins compiled (twinKey place)
  simp only [partsOf_twins, List.map, contentKey_twins, Dict.get?_cons] at look
  have one : bundle.registry.lookup (twinKey 0) = .ok (.literal (.int 1)) := look 0
  have two : bundle.registry.lookup (twinKey 2) = .ok (.literal (.int 2)) := look 2
  have left : bundle.registry.lookup (twinKey 1) = .ok (pinned ["x", "y"] 1).kept := look 1
  have right : bundle.registry.lookup (twinKey 3) = .ok (pinned ["x", "y"] 2).kept := look 3
  have root : bundle.registry.lookup (twinKey 4) = .ok (choice "x" "y").kept := look 4
  have keys := contentKey_twins
  simp only [pinned, List.map] at keys
  simp only [pinned, choice, kept, List.map, stub, stubs, keys] at left right root
  have bind (node : Node) (next : Node → Except LookupError Node) :
      (Except.ok node >>= next) = next node := rfl
  have steps : resolveWith bundle.registry.lookup 7 (.ref (twinKey 4)) =
      .ok (choice "x" "y") := by
    simp only [resolveWith, mapChildren, root, bind, List.mapM_cons, List.mapM_nil, left, right,
      one, two, pure_bind]
    rfl
  exact resolveWith_mono (by decide) steps

/-- The roots of both twins refer to one part. -/
theorem roots_twins (compiled : compile twins = .ok bundle) :
    bundle.roots = [("a", .ref (twinKey 4)), ("b", .ref (twinKey 4))] := by
  rw [bundle_eq_of_compile refFree_twins compiled]
  simp only [twins, List.map, stub_of_isShared (rfl : (choice _ _).isShared = true),
    contentKey_twins]

def untagged : Json :=
  .object [("p", .object [])]

/-- The field that is missing is that of the discriminator. -/
theorem decode_choice (first second : String) (types : TypeRegistry) :
    ({ types } : Codec).decode (choice first second) untagged =
      .error (.invalid { issues := [("p." ++ first, [.missingDiscriminator])] }) := by
  have walked : ({ types } : Codec).decodeWithin 128 (choice first second) untagged {} =
      .error .invalid { issues := [("p." ++ first, [.missingDiscriminator])] } := by
    rw [choice, Codec.decodeWithin_of_not_ref rfl]
    simp only [untagged, Codec.decodeShape, sortedProperties_singleton]
    rfl
  rw [Codec.decode, Walk.conclude, walked]
  rfl

/-- The second twin loses its discriminator: through the bundle, another field is reported missing
than without it. -/
theorem twins_differ :
    ∃ bundle, compile twins = .ok bundle ∧ AllRefFree twins ∧ CollisionFree (partsOf twins) ∧
      (∀ root ∈ bundle.roots, ∃ resolved, bundle.registry.resolve root.2 = .ok resolved) ∧
        ∃ root node, bundle.root? "b" = some root ∧ Dict.get? twins "b" = some node ∧
          ({ types := {}, nodes := some bundle.registry } : Codec).decode root untagged =
            .error (.invalid { issues := [("p.x", [.missingDiscriminator])] }) ∧
          ({ types := {} } : Codec).decode node untagged =
            .error (.invalid { issues := [("p.y", [.missingDiscriminator])] }) := by
  obtain ⟨bundle, compiled⟩ : ∃ bundle, compile twins = .ok bundle :=
    ⟨_, compile_eq refFree_twins⟩
  have roots := roots_twins compiled
  have resolves := resolve_twins compiled
  have unfolded : Codec.Unfolded { types := {}, nodes := some bundle.registry } { types := {} }
      bundle.registry := ⟨rfl, rfl, rfl, fun _ => rfl⟩
  refine ⟨bundle, compiled, refFree_twins, collisionFree_twins, ?_, .ref (twinKey 4), _, ?_, rfl,
    ?_, decode_choice _ _ _⟩
  · intro root member
    rw [roots] at member
    rcases List.mem_pair.mp member with rfl | rfl
    · exact ⟨_, resolves⟩
    · exact ⟨_, resolves⟩
  · rw [root?, roots]
    rfl
  · rw [Codec.decode, unfolded.decodeWithin_eq _ (.of_resolve resolves)]
    exact decode_choice "x" "y" {}

end Schemata.Bundle
