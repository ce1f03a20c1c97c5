import Schemata.Proofs.Bundle.Equivalence
import Schemata.Proofs.Bundle.Rejection
import Schemata.Proofs.Bundle.Table

/-!
# The shape of a bundle

Either schemas are rejected for the first reference in them, or their bundle holds exactly their
parts, each under its content key and with references in place of its own parts.
-/

namespace Schemata

namespace Node

/-- The node stands somewhere in another one, outside of brands. -/
inductive OccursIn (part : Node) : Node → Prop where
  | here : OccursIn part part
  | inside {node child : Node} (notBrand : ∀ inner tag, node ≠ .branded inner tag)
      (member : child ∈ node.children) (deeper : OccursIn part child) : OccursIn part node

/-- The parts of a node are the leaves, brands and structs in it. -/
theorem mem_parts_iff_occursIn {node part : Node} :
    part ∈ node.parts ↔ part.OccursIn node ∧ part.isShared = true := by
  constructor
  · intro member
    refine ⟨?_, isShared_of_mem_parts member⟩
    induction node using induction_on_children with
    | step node ih =>
        rcases mem_parts_iff.mp member with ⟨rfl, _⟩ | ⟨notBrand, child, among, inside⟩
        · exact .here
        · exact .inside notBrand among (ih child among inside)
  · rintro ⟨occurs, shared⟩
    induction occurs with
    | here => exact self_mem_parts shared
    | inside notBrand member _ ih => exact mem_parts_of_child notBrand member ih

/-- What is kept of a part holds stubs, or is a brand of a built-in. -/
theorem children_kept {part : Node} (sound : part.SoundBrands) (shared : part.isShared = true) :
    (∃ kind tag, part.kept = .branded (.builtIn kind) tag) ∨
      ∀ child ∈ part.kept.children, child.IsStub := by
  cases part with
  | branded inner tag =>
      left
      obtain ⟨kind, rfl⟩ := eq_builtIn_of_brandedAs (sound.here inner tag rfl)
      exact ⟨kind, tag, rfl⟩
  | struct kind properties =>
      right
      intro child member
      rw [children_kept_struct] at member
      obtain ⟨origin, _, rfl⟩ := List.mem_map.mp member
      exact isStub_stub origin
  | builtIn | literal | enumeration | dateTime => exact Or.inr fun _ nothing => nomatch nothing
  | _ => cases shared

end Node

namespace Bundle

open Node NodeRegistry Sharing

variable {schemas : Dict Node} {bundle : Bundle}

/-- A bundle that holds the leaves, brands and structs of some schemas. -/
structure HasShape (bundle : Bundle) (schemas : Dict Node) : Prop where
  /-- No key occurs twice. -/
  distinct : (Dict.keys bundle.table).Nodup
  /-- The keys are the content keys of the parts. -/
  keys : ∀ key, key ∈ Dict.keys bundle.table ↔
    ∃ schema ∈ schemas, ∃ part : Node, (part.OccursIn schema.2 ∧ part.isShared = true) ∧
      part.contentKey = key
  /-- An entry stands under the content key of what it unfolds to. -/
  unfolds : ∀ key entry, Dict.get? bundle.table key = some entry →
    ∃ steps unfolded, resolveWith bundle.registry.lookup steps entry = .ok unfolded ∧
      unfolded.RefFree ∧ unfolded.contentKey = key
  /-- The references in entries lead to entries. -/
  entriesLead : ∀ owner key, bundle.RefersTo owner key → key ∈ Dict.keys bundle.table
  /-- The references in roots lead to entries. -/
  rootsLead : ∀ root ∈ bundle.roots, ∀ key ∈ root.2.refs, key ∈ Dict.keys bundle.table
  /-- References never lead back. -/
  acyclic : ∀ key, ¬ Relation.TransGen bundle.RefersTo key key
  /-- No part is left in a root. -/
  roots : ∀ root ∈ bundle.roots, root.2.IsStub
  /-- No part is left in an entry, below the entry itself. -/
  entries : ∀ key entry, Dict.get? bundle.table key = some entry →
    (∃ kind tag, entry = .branded (.builtIn kind) tag) ∨ ∀ child ∈ entry.children, child.IsStub

/-- A key that leads to an entry is one of the table. -/
theorem mem_keys_of_lookup (refFree : AllRefFree schemas) (compiled : compile schemas = .ok bundle)
    {key : String} (found : ∃ entry, bundle.registry.lookup key = .ok entry) :
    key ∈ Dict.keys bundle.table := by
  obtain ⟨entry, success⟩ := found
  have there := Dict.mem_of_get?_eq_some ((lookup_eq_ok_iff refFree compiled).mp success)
  exact List.mem_map_of_mem there

/-- A root is the stub of a schema. -/
theorem exists_stub_of_mem_roots (refFree : AllRefFree schemas)
    (compiled : compile schemas = .ok bundle) {root : String × Node}
    (member : root ∈ bundle.roots) :
    ∃ schema ∈ schemas, root.2 = schema.2.stub := by
  rw [bundle_eq_of_compile refFree compiled] at member
  obtain ⟨schema, among, rfl⟩ := List.mem_map.mp member
  exact ⟨schema, among, rfl⟩

/-- What is compiled from schemas without references holds their leaves, brands and structs. -/
theorem hasShape_of_compile (refFree : AllRefFree schemas)
    (sound : ∀ schema ∈ schemas, schema.2.SoundBrands) (compiled : compile schemas = .ok bundle)
    (free : CollisionFree (partsOf schemas)) : bundle.HasShape schemas where
  distinct := nodup_keys_of_compile refFree compiled
  keys key := by
    rw [Dict.keys, mem_keys_iff refFree compiled]
    simp only [partsOf, List.mem_flatMap, mem_parts_iff_occursIn]
    constructor
    · rintro ⟨part, ⟨schema, among, inside⟩, same⟩
      exact ⟨schema, among, part, inside, same⟩
    · rintro ⟨schema, among, part, inside, same⟩
      exact ⟨part, ⟨schema, among, inside⟩, same⟩
  unfolds key entry found := by
    have keeps := keeps_of_compile refFree compiled
    have success := (lookup_eq_ok_iff refFree compiled).mpr found
    obtain ⟨part, member, rfl, _⟩ := keeps.found success
    -- The key is followed first, which takes one step more than the entry does.
    obtain ⟨steps, unfolded, resolved⟩ :=
      exists_resolveWith_of_mem_partsOf refFree compiled free member
    cases steps with
    | zero => cases resolved
    | succ steps =>
        rw [resolveWith_ref, success] at resolved
        refine ⟨steps, unfolded, resolved, refFree_of_resolveWith resolved, ?_⟩
        exact contentKey_of_resolve_entry refFree compiled free success resolved
  entriesLead owner key refers := by
    obtain ⟨entry, found, member⟩ := refers
    have leads := leads_of_lookup refFree compiled ((lookup_eq_ok_iff refFree compiled).mpr found)
    exact mem_keys_of_lookup refFree compiled (leads key member)
  rootsLead root member key refers := by
    obtain ⟨schema, among, same⟩ := exists_stub_of_mem_roots refFree compiled member
    rw [same] at refers
    exact mem_keys_of_lookup refFree compiled (leads_of_root refFree compiled among key refers)
  acyclic key := not_transGen_refersTo_self refFree compiled free key
  roots root member := by
    obtain ⟨schema, _, same⟩ := exists_stub_of_mem_roots refFree compiled member
    rw [same]
    exact isStub_stub schema.2
  entries key entry found := by
    have keeps := keeps_of_compile refFree compiled
    obtain ⟨part, member, _, rfl⟩ := keeps.found ((lookup_eq_ok_iff refFree compiled).mpr found)
    obtain ⟨schema, among, inside⟩ := List.mem_flatMap.mp member
    exact children_kept ((sound schema among).of_mem_parts inside) (keeps.shared member)

/-- Schemas in the order of their names are rejected exactly when one of them contains a reference,
and then for the first one.  Otherwise the bundle holds their leaves, brands and structs. -/
theorem compile_rejects_or_hasShape (sound : ∀ schema ∈ schemas, schema.2.SoundBrands)
    (ascending : (Dict.keys schemas).Pairwise (· < ·)) :
    ((∃ error, compile schemas = .error error) ↔ ∃ schema ∈ schemas, ¬ schema.2.RefFree) ∧
      (∀ error, compile schemas = .error error ↔ FirstRef schemas error) ∧
      (AllRefFree schemas → CollisionFree (partsOf schemas) →
        ∃ bundle, compile schemas = .ok bundle ∧ bundle.HasShape schemas) := by
  refine ⟨exists_compile_eq_error_iff sound, fun error => ?_, fun refFree free => ?_⟩
  · exact compile_eq_error_iff sound ascending
  · have compiled := compile_eq refFree
    exact ⟨_, compiled, hasShape_of_compile refFree sound compiled free⟩

theorem soundBrands_pinned (names : List String) (value : Int64) :
    (pinned names value).SoundBrands := by
  refine .intro (fun _ _ => Node.noConfusion) fun child member => ?_
  obtain ⟨property, among, rfl⟩ := List.mem_map.mp member
  obtain ⟨name, _, rfl⟩ := List.mem_map.mp among
  exact .leaf (fun _ _ => Node.noConfusion) rfl

theorem soundBrands_choice (first second : String) : (choice first second).SoundBrands := by
  refine .intro (fun _ _ => Node.noConfusion) fun child member => ?_
  obtain rfl := List.mem_singleton.mp member
  refine .intro (fun _ _ => Node.noConfusion) fun child member => ?_
  rcases List.mem_pair.mp member with rfl | rfl
  · exact soundBrands_pinned _ _
  · exact soundBrands_pinned _ _

/-- The twins are compiled to a bundle of their leaves and structs. -/
theorem compile_rejects_or_hasShape_of_twins :
    (∀ schema ∈ twins, schema.2.SoundBrands) ∧ (Dict.keys twins).Pairwise (· < ·) ∧
      AllRefFree twins ∧ CollisionFree (partsOf twins) ∧
      ∃ bundle, compile twins = .ok bundle ∧ bundle.HasShape twins := by
  have sound : ∀ schema ∈ twins, schema.2.SoundBrands := by
    intro schema member
    rcases List.mem_pair.mp member with rfl | rfl
    · exact soundBrands_choice _ _
    · exact soundBrands_choice _ _
  have ascending : (Dict.keys twins).Pairwise (· < ·) := by
    decide
  have result := compile_rejects_or_hasShape sound ascending
  exact ⟨sound, ascending, refFree_twins, collisionFree_twins,
    result.2.2 refFree_twins collisionFree_twins⟩

end Bundle

end Schemata
