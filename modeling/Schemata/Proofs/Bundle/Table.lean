import Schemata.Proofs.Bundle.Restoration
import Schemata.Proofs.Unfolding

/-!
# The table of a bundle

The references that stubs and stored parts hold are the content keys of parts, and a stored part
refers to parts with shorter canonical forms only.  So every reference leads to an entry of the
table, and references never lead back.
-/

namespace Schemata

namespace Node

/-! ## References in stubs -/

theorem isShared_stub (node : Node) : node.stub.isShared = false := by
  cases node <;> rfl

theorem children_stub {node : Node} (notShared : node.isShared = false) :
    node.stub.children = node.children.map stub := by
  cases node with
  | builtIn | literal | enumeration | dateTime | branded | struct => cases notShared
  | tuple members | union members _ | intersection members _ => exact stubs_eq_map members
  | _ => rfl

theorem children_kept_struct (kind : StructKind) (properties : List (Property Node)) :
    (kept (.struct kind properties)).children =
      (children (.struct kind properties)).map stub := by
  simp [kept, children]

theorem isRef_stub {node : Node} (notRef : node.isRef = false) (notShared : node.isShared = false) :
    node.stub.isRef = false := by
  cases node with
  | ref key => cases notRef
  | builtIn | literal | enumeration | dateTime | branded | struct => cases notShared
  | _ => rfl

/-- Nothing in the node moves into the table. -/
def IsStub : Node → Prop :=
  Everywhere fun node => node.isShared = false

theorem isStub_stub (node : Node) : node.stub.IsStub := by
  induction node using induction_on_children with
  | step node ih =>
      cases shared : node.isShared with
      | true =>
          rw [stub_of_isShared shared]
          exact .leaf rfl rfl
      | false =>
          refine .intro (isShared_stub node) fun child member => ?_
          rw [children_stub shared] at member
          obtain ⟨origin, among, rfl⟩ := List.mem_map.mp member
          exact ih origin among

/-- A reference in a stub is the content key of a part that is not written longer than the node. -/
theorem exists_part_of_mem_refs_stub {node : Node} {key : String} (refFree : node.RefFree)
    (member : key ∈ node.stub.refs) :
    ∃ part ∈ node.parts, key = part.contentKey ∧
      part.canonical.length ≤ node.canonical.length := by
  induction node using induction_on_children with
  | step node ih =>
      cases shared : node.isShared with
      | true =>
          rw [stub_of_isShared shared] at member
          exact ⟨node, self_mem_parts shared, List.mem_singleton.mp member, Nat.le_refl _⟩
      | false =>
          rw [refs_of_not_ref (isRef_stub refFree.here shared), children_stub shared] at member
          obtain ⟨stubbed, among, inside⟩ := List.mem_flatMap.mp member
          obtain ⟨child, origin, rfl⟩ := List.mem_map.mp among
          obtain ⟨part, found, same, shorter⟩ :=
            ih child origin (refFree.of_mem_children origin) inside
          have notBrand := not_branded_of_not_shared shared
          refine ⟨part, mem_parts_of_child notBrand origin found, same, ?_⟩
          exact Nat.le_trans shorter (length_canonical_le_of_mem_children origin)

/-- A reference in what is kept of a part is the content key of an inner part, which is written
shorter. -/
theorem exists_part_of_mem_refs_kept {part : Node} {key : String} (refFree : part.RefFree)
    (member : key ∈ part.kept.refs) :
    ∃ inner ∈ part.parts, key = inner.contentKey ∧
      inner.canonical.length < part.canonical.length := by
  cases part with
  | struct kind properties =>
      rw [refs_of_not_ref rfl, children_kept_struct] at member
      obtain ⟨stubbed, among, inside⟩ := List.mem_flatMap.mp member
      obtain ⟨child, origin, rfl⟩ := List.mem_map.mp among
      obtain ⟨inner, found, same, shorter⟩ :=
        exists_part_of_mem_refs_stub (refFree.of_mem_children origin) inside
      refine ⟨inner, mem_parts_of_child (fun _ _ => Node.noConfusion) origin found, same, ?_⟩
      obtain ⟨property, listed, rfl⟩ := List.mem_map.mp origin
      exact Nat.lt_of_le_of_lt shorter (length_canonical_lt_of_mem_struct listed)
  | _ =>
      simp only [kept] at member
      rw [refs_eq_nil_iff.mpr refFree] at member
      cases member

end Node

namespace Bundle

open Node NodeRegistry Sharing

variable {schemas : Dict Node} {bundle : Bundle} {key : String} {entry : Node}

/-! ## Entries -/

/-- No key occurs twice in the table. -/
theorem nodup_keys_of_compile (refFree : AllRefFree schemas)
    (compiled : compile schemas = .ok bundle) : (bundle.table.map Prod.fst).Nodup := by
  rw [bundle_eq_of_compile refFree compiled]
  exact nodup_storeAll (by simp) _

/-- The registry of a bundle finds what stands in the table. -/
theorem lookup_eq_ok_iff (refFree : AllRefFree schemas) (compiled : compile schemas = .ok bundle) :
    bundle.registry.lookup key = .ok entry ↔ Dict.get? bundle.table key = some entry := by
  rw [registry, lookup_ofNodes (nodup_keys_of_compile refFree compiled)]
  cases Dict.get? bundle.table key with
  | none => simp
  | some found => simp

/-- The keys of the table are the content keys of the parts. -/
theorem mem_keys_iff (refFree : AllRefFree schemas) (compiled : compile schemas = .ok bundle) :
    key ∈ bundle.table.map Prod.fst ↔ ∃ part ∈ partsOf schemas, part.contentKey = key := by
  have stored := get?_storeAll [] (partsOf schemas) key
  rw [List.nil_append] at stored
  rw [bundle_eq_of_compile refFree compiled, ← not_iff_not, ← Dict.get?_eq_none_iff, stored,
    Dict.get?_eq_none_iff, List.map_map]
  simp

/-- Every part has an entry under its content key. -/
theorem exists_lookup_of_mem_partsOf (refFree : AllRefFree schemas)
    (compiled : compile schemas = .ok bundle) {part : Node} (member : part ∈ partsOf schemas) :
    ∃ entry, bundle.registry.lookup part.contentKey = .ok entry := by
  have listed := (mem_keys_iff refFree compiled).mpr ⟨part, member, rfl⟩
  cases found : Dict.get? bundle.table part.contentKey with
  | none => exact absurd listed (Dict.get?_eq_none_iff.mp found)
  | some entry => exact ⟨entry, (lookup_eq_ok_iff refFree compiled).mpr found⟩

/-- The references of an entry lead to entries. -/
theorem leads_of_lookup (refFree : AllRefFree schemas) (compiled : compile schemas = .ok bundle)
    (found : bundle.registry.lookup key = .ok entry) : Leads bundle.registry.lookup entry := by
  have keeps := keeps_of_compile refFree compiled
  intro other member
  obtain ⟨part, among, _, rfl⟩ := keeps.found found
  obtain ⟨inner, inside, rfl, _⟩ := exists_part_of_mem_refs_kept (keeps.refFree among) member
  exact exists_lookup_of_mem_partsOf refFree compiled (keeps.inner among inside)

/-- The references of a root lead to entries. -/
theorem leads_of_root (refFree : AllRefFree schemas) (compiled : compile schemas = .ok bundle)
    {schema : String × Node} (among : schema ∈ schemas) :
    Leads bundle.registry.lookup schema.2.stub := by
  intro other member
  obtain ⟨part, inside, rfl, _⟩ := exists_part_of_mem_refs_stub (refFree schema among) member
  exact exists_lookup_of_mem_partsOf refFree compiled (mem_partsOf among inside)

/-! ## References between entries -/

/-- The entry under the first key holds a reference to the second one. -/
def RefersTo (bundle : Bundle) (owner key : String) : Prop :=
  ∃ entry, Dict.get? bundle.table owner = some entry ∧ key ∈ entry.refs

/-- The two keys are those of parts, the second of which is written shorter. -/
def Descends (parts : List Node) (owner key : String) : Prop :=
  ∃ outer ∈ parts, ∃ inner ∈ parts, owner = outer.contentKey ∧ key = inner.contentKey ∧
    inner.canonical.length < outer.canonical.length

theorem descends_of_refersTo (refFree : AllRefFree schemas)
    (compiled : compile schemas = .ok bundle) {owner : String} (refers : bundle.RefersTo owner key) :
    Descends (partsOf schemas) owner key := by
  have keeps := keeps_of_compile refFree compiled
  obtain ⟨entry, found, member⟩ := refers
  obtain ⟨outer, among, rfl, rfl⟩ := keeps.found ((lookup_eq_ok_iff refFree compiled).mpr found)
  obtain ⟨inner, inside, rfl, shorter⟩ :=
    exists_part_of_mem_refs_kept (keeps.refFree among) member
  exact ⟨outer, among, inner, keeps.inner among inside, rfl, rfl, shorter⟩

/-- Parts under one key are written alike, so descending twice is descending. -/
theorem Descends.trans {parts : List Node} {first second third : String}
    (free : CollisionFree parts) (one : Descends parts first second)
    (two : Descends parts second third) : Descends parts first third := by
  obtain ⟨outer, outerMember, middle, middleMember, rfl, rfl, shorter⟩ := one
  obtain ⟨middle', middleMember', inner, innerMember, same, rfl, shorter'⟩ := two
  have written := free middle middleMember middle' middleMember' same
  refine ⟨outer, outerMember, inner, innerMember, rfl, rfl, ?_⟩
  rw [written] at shorter
  exact Nat.lt_trans shorter' shorter

/-- References between entries never lead back. -/
theorem not_transGen_refersTo_self (refFree : AllRefFree schemas)
    (compiled : compile schemas = .ok bundle) (free : CollisionFree (partsOf schemas))
    (key : String) : ¬ Relation.TransGen bundle.RefersTo key key := by
  have descends {owner other : String} (path : Relation.TransGen bundle.RefersTo owner other) :
      Descends (partsOf schemas) owner other := by
    induction path with
    | single refers => exact descends_of_refersTo refFree compiled refers
    | tail _ refers ih => exact ih.trans free (descends_of_refersTo refFree compiled refers)
  intro cycle
  obtain ⟨outer, outerMember, inner, innerMember, same, same', shorter⟩ := descends cycle
  have written := free outer outerMember inner innerMember (same.symm.trans same')
  rw [written] at shorter
  exact Nat.lt_irrefl _ shorter

/-! ## Unfolding entries -/

/-- Every key leads to a node without references, in some number of steps. -/
theorem exists_resolveWith_of_mem_partsOf (refFree : AllRefFree schemas)
    (compiled : compile schemas = .ok bundle) (free : CollisionFree (partsOf schemas))
    {part : Node} (member : part ∈ partsOf schemas) :
    ∃ steps resolved,
      resolveWith bundle.registry.lookup steps (.ref part.contentKey) = .ok resolved := by
  have keeps := keeps_of_compile refFree compiled
  -- The entry may stem from another part under the key, so the induction is on the written length.
  induction length : part.canonical.length using Nat.strongRecOn generalizing part with
  | ind bound ih =>
      obtain ⟨entry, found⟩ := exists_lookup_of_mem_partsOf refFree compiled member
      obtain ⟨origin, among, same, rfl⟩ := keeps.found found
      have written := free part member origin among same
      have inside : ∃ steps resolved,
          resolveWith bundle.registry.lookup steps origin.kept = .ok resolved := by
        apply exists_resolveWith_of_refs
        intro key reference
        obtain ⟨inner, below, rfl, shorter⟩ :=
          exists_part_of_mem_refs_kept (keeps.refFree among) reference
        rw [← written, length] at shorter
        exact ih _ shorter (keeps.inner among below) rfl
      obtain ⟨steps, resolved, success⟩ := inside
      refine ⟨steps + 1, resolved, ?_⟩
      rw [resolveWith_ref, found]
      exact success

/-- What an entry unfolds to has the key of the entry as its content key. -/
theorem contentKey_of_resolve_entry (refFree : AllRefFree schemas)
    (compiled : compile schemas = .ok bundle) (free : CollisionFree (partsOf schemas))
    {steps : Nat} {resolved : Node} (found : bundle.registry.lookup key = .ok entry)
    (success : resolveWith bundle.registry.lookup steps entry = .ok resolved) :
    resolved.contentKey = key := by
  have keeps := keeps_of_compile refFree compiled
  obtain ⟨part, member, rfl, rfl⟩ := keeps.found found
  have followed : resolveWith bundle.registry.lookup (steps + 1) part.stub = .ok resolved := by
    rw [stub_of_isShared (keeps.shared member), resolveWith_ref, found]
    exact success
  have written := alike_of_resolve_stub (merges_written keeps free) keeps (keeps.refFree member)
    (keeps.inner member) followed
  rw [contentKey, contentKey, written.1]

end Bundle

end Schemata
