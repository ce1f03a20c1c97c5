import Schemata.Proofs.Bundle.Sharing
import Schemata.Proofs.Node.Sorted
import Schemata.Proofs.Resolution

/-!
# What a bundle gives back

A bundle identifies parts by their content keys, hence by their canonical forms.  Resolving the root
of a schema gives a node with the canonical form of the schema.  It gives back every schema, up to
the declaration order of properties, exactly when parts that are written alike differ in that order
only.
-/

namespace Schemata.Bundle

open List (Forall₂)
open Node NodeRegistry Sharing

/-- Parts under one content key have one canonical form. -/
def CollisionFree (parts : List Node) : Prop :=
  ∀ first ∈ parts, ∀ second ∈ parts, first.contentKey = second.contentKey →
    first.canonical = second.canonical

/-- Parts with one canonical form differ in the declaration order of properties only. -/
def ToldApart (parts : List Node) : Prop :=
  ∀ first ∈ parts, ∀ second ∈ parts, first.canonical = second.canonical →
    first.sorted = second.sorted

/-- A registry that keeps some parts, which are closed under parts, under their content keys. -/
structure Keeps (registry : NodeRegistry) (parts : List Node) : Prop where
  found : ∀ {key node}, registry.lookup key = .ok node →
    ∃ part ∈ parts, key = part.contentKey ∧ node = part.kept
  refFree : ∀ {part}, part ∈ parts → part.RefFree
  shared : ∀ {part}, part ∈ parts → part.isShared = true
  inner : ∀ {part}, part ∈ parts → part.parts ⊆ parts

/-- A relation that passes from children to nodes and holds of parts under one content key. -/
structure Merges (alike : Node → Node → Prop) (parts : List Node) : Prop where
  refl : ∀ node, alike node node
  trans : ∀ {first second third}, alike first second → alike second third → alike first third
  shape : ∀ {first second}, SameShape alike first second → alike first second
  merged : ∀ first ∈ parts, ∀ second ∈ parts, first.contentKey = second.contentKey →
    alike first second

theorem merges_sorted {parts : List Node} (free : CollisionFree parts) (apart : ToldApart parts) :
    Merges (fun left right => left.sorted = right.sorted) parts where
  refl _ := rfl
  trans := Eq.trans
  shape := sorted_eq_of_sameShape
  merged first one second other same :=
    apart first one second other (free first one second other same)

theorem isUnion_of_isShared {node : Node} (shared : node.isShared = true) :
    node.isUnion = false := by
  cases node <;> first | rfl | cases shared

theorem merges_written {registry : NodeRegistry} {parts : List Node} (keeps : Keeps registry parts)
    (free : CollisionFree parts) : Merges WrittenAlike parts where
  refl _ := ⟨rfl, rfl⟩
  trans first second := ⟨first.1.trans second.1, first.2.trans second.2⟩
  shape := writtenAlike_of_sameShape
  merged first one second other same :=
    ⟨free first one second other same, by
      rw [isUnion_of_isShared (keeps.shared one), isUnion_of_isShared (keeps.shared other)]⟩

/-! ## Resolving stubs -/

section

variable {parts : List Node} {registry : NodeRegistry} {alike : Node → Node → Prop}
  {steps : Nat} {node resolved : Node}

/-- A part that is kept whole resolves to itself, and a struct to one with resolved properties. -/
theorem alike_of_resolve_kept (merges : Merges alike parts) (refFree : node.RefFree)
    (shared : node.isShared = true)
    (properties : (∀ inner tag, node ≠ .branded inner tag) → ∀ child ∈ node.children, ∀ other,
      resolveWith registry.lookup steps child.stub = .ok other → alike child other)
    (success : resolveWith registry.lookup steps node.kept = .ok resolved) :
    alike node resolved := by
  cases node with
  | struct kind members =>
      obtain ⟨fewer, rfl, ⟨_, _, same, _⟩ | ⟨_, _, shape⟩⟩ := resolveWith_eq_ok_cases success
      · cases same
      · refine merges.shape ?_
        refine (sameShape_of_kept shape).mono_mem fun child other member inside => ?_
        have enough := resolveWith_mono (Nat.le_succ _) inside
        exact properties (fun _ _ => Node.noConfusion) child member other enough
  | builtIn | literal | enumeration | dateTime | branded =>
      rw [eq_of_resolveWith refFree success]
      exact merges.refl _
  | list | record | tuple | union | intersection | constrained | cast | named | ref =>
      cases shared

/-- A stub resolves to a node that is like the one it was made from. -/
theorem alike_of_resolve_stub (merges : Merges alike parts) (keeps : Keeps registry parts)
    (refFree : node.RefFree) (inside : node.parts ⊆ parts)
    (success : resolveWith registry.lookup steps node.stub = .ok resolved) :
    alike node resolved := by
  induction steps generalizing node resolved with
  | zero => cases h : node.stub <;> rw [h] at success <;> cases success
  | succ steps ih =>
      -- The children of a node within the parts are stubs that resolve within one step less.
      have below {outer : Node} (refFree : outer.RefFree) (inside : outer.parts ⊆ parts)
          (notBrand : ∀ inner tag, outer ≠ .branded inner tag) (child : Node)
          (member : child ∈ outer.children) (other : Node)
          (success : resolveWith registry.lookup steps child.stub = .ok other) :
          alike child other := by
        exact ih (refFree.of_mem_children member)
          (fun part among => inside (mem_parts_of_child notBrand member among)) success
      cases shared : node.isShared with
      | true =>
          rw [stub_of_isShared shared, resolveWith_ref] at success
          obtain ⟨next, found, success⟩ := Except.bind_eq_ok_iff.mp success
          obtain ⟨part, member, same, rfl⟩ := keeps.found found
          have first := merges.merged node (inside (self_mem_parts shared)) part member same
          exact merges.trans first <| alike_of_resolve_kept merges (keeps.refFree member)
            (keeps.shared member) (below (keeps.refFree member) (keeps.inner member)) success
      | false =>
          have notBrand := not_branded_of_not_shared shared
          obtain ⟨_, same, ⟨key, _, isRef, _⟩ | ⟨_, _, shape⟩⟩ := resolveWith_eq_ok_cases success
          · exact absurd isRef (stub_ne_ref refFree.here shared key)
          · cases same
            refine merges.shape ?_
            exact (sameShape_of_stub shared shape).mono_mem fun child other member =>
              below refFree inside notBrand child member other

/-! ## The way back -/

theorem isShared_eq_of_sameShape {related : Node → Node → Prop} {other : Node}
    (shape : SameShape related node other) : node.isShared = other.isShared := by
  cases shape <;> rfl

theorem isShared_eq_of_sorted_eq {other : Node} (same : node.sorted = other.sorted) :
    node.isShared = other.isShared := by
  rcases sameShape_of_sorted_eq same with ⟨key, rfl, rfl⟩ | shape
  · rfl
  · exact isShared_eq_of_sameShape shape

theorem isShared_kept : node.kept.isShared = node.isShared := by
  cases node <;> rfl

/-- What the stub of a shared part resolves to is resolved from what is kept of some part. -/
theorem exists_part_of_resolve_stub (keeps : Keeps registry parts) (shared : node.isShared = true)
    (success : resolveWith registry.lookup steps node.stub = .ok resolved) :
    ∃ part ∈ parts, node.contentKey = part.contentKey ∧
      SameShape (fun child other => resolveWith registry.lookup (steps - 2) child = .ok other)
        part.kept resolved := by
  rw [stub_of_isShared shared] at success
  obtain ⟨fewer, rfl, ⟨_, next, same, found, success⟩ | ⟨absurd, _⟩⟩ :=
    resolveWith_eq_ok_cases success
  · cases same
    obtain ⟨part, member, same, rfl⟩ := keeps.found found
    obtain ⟨less, rfl, ⟨_, _, isRef, _⟩ | ⟨_, _, shape⟩⟩ := resolveWith_eq_ok_cases success
    · have shared : part.kept.isShared = true := isShared_kept.trans (keeps.shared member)
      rw [isRef] at shared
      cases shared
    · exact ⟨part, member, same, shape⟩
  · cases absurd

/-- Nodes of one shape with equal stubs below have equal stubs, unless they are shared. -/
theorem stub_eq_of_sameShape {other : Node} (notShared : node.isShared = false)
    (shape : SameShape (fun child other => child.stub = other.stub) node other) :
    node.stub = other.stub := by
  cases shape with
  | builtIn | literal | enumeration | dateTime | branded | struct => cases notShared
  | list item | record item | constrained _ item | cast _ _ item | named _ item =>
      simp only [stub, item]
  | tuple members | union _ members | intersection _ members =>
      simp only [stub, stubs_eq_map, map_eq_of_forall₂ (f := stub) (fun _ _ same => same) members]

/-- A node that a stub resolves to, up to declaration order, has this stub itself. -/
theorem stub_eq_of_resolve_stub (keeps : Keeps registry parts) (free : CollisionFree parts)
    {other : Node} (refFree : node.RefFree) (inside : node.parts ⊆ parts)
    (success : resolveWith registry.lookup steps node.stub = .ok resolved)
    (same : resolved.sorted = other.sorted) : node.stub = other.stub := by
  induction node using induction_on_children generalizing steps resolved other with
  | step node ih =>
      have written := alike_of_resolve_stub (merges_written keeps free) keeps refFree inside success
      have texts : node.canonical = other.canonical :=
        written.1.trans (writtenAlike_of_sorted_eq same).1
      cases shared : node.isShared with
      | true =>
          obtain ⟨part, member, _, shape⟩ := exists_part_of_resolve_stub keeps shared success
          have kinds : other.isShared = true := by
            rw [← isShared_eq_of_sorted_eq same, ← isShared_eq_of_sameShape shape, isShared_kept,
              keeps.shared member]
          rw [stub_of_isShared shared, stub_of_isShared kinds, contentKey, contentKey, texts]
      | false =>
          have notBrand := not_branded_of_not_shared shared
          obtain ⟨fewer, rfl, ⟨key, _, isRef, _⟩ | ⟨_, _, resolves⟩⟩ :=
            resolveWith_eq_ok_cases success
          · exact absurd isRef (stub_ne_ref refFree.here shared key)
          rcases sameShape_of_sorted_eq same with ⟨key, rfl, rfl⟩ | sorts
          · cases resolves.isRef_right
          have shape := (sameShape_of_stub shared resolves).comp sorts
          refine stub_eq_of_sameShape shared (shape.mono_mem ?_)
          rintro child found member ⟨middle, success, same⟩
          exact ih child member (refFree.of_mem_children member)
            (fun part among => inside (mem_parts_of_child notBrand member among)) success same

/-- A part that is resolved to a struct is a struct. -/
theorem sameShape_of_kept_struct {related : Node → Node → Prop} {kind : StructKind}
    {properties : List (Property Node)}
    (shape : SameShape related node.kept (.struct kind properties)) :
    (∀ inner tag, node ≠ .branded inner tag) ∧
      SameShape (fun child other => related child.stub other) node (.struct kind properties) := by
  cases node with
  | struct => exact ⟨fun _ _ => Node.noConfusion, sameShape_of_kept shape⟩
  | _ => cases shape

/-- Where a schema is given back, all of its parts are. -/
theorem exists_resolve_of_mem_parts (keeps : Keeps registry parts) (free : CollisionFree parts)
    (refFree : node.RefFree) (inside : node.parts ⊆ parts)
    (success : resolveWith registry.lookup steps node.stub = .ok resolved)
    (same : resolved.sorted = node.sorted) {part : Node} (member : part ∈ node.parts) :
    ∃ fewer found, resolveWith registry.lookup fewer part.stub = .ok found ∧
      found.sorted = part.sorted := by
  induction node using induction_on_children generalizing steps resolved with
  | step node ih =>
      rcases mem_parts_iff.mp member with ⟨rfl, _⟩ | ⟨notBrand, child, among, below⟩
      · exact ⟨steps, resolved, success, same⟩
      have each (child : Node) (among : child ∈ node.children) : child.parts ⊆ parts :=
        fun part member => inside (mem_parts_of_child notBrand among member)
      -- The child stands at the place of some node whose stub resolves to it.
      have stands : ∃ (fewer : Nat) (origin found : Node), origin.RefFree ∧ origin.parts ⊆ parts ∧
          resolveWith registry.lookup fewer origin.stub = .ok found ∧
            found.sorted = child.sorted := by
        rcases sameShape_of_sorted_eq same with ⟨key, rfl, rfl⟩ | sorts
        · cases refFree.here
        obtain ⟨found, here, sorted⟩ := sorts.exists_child_of_mem_right among
        cases shared : node.isShared with
        | true =>
            obtain ⟨part, kept, _, resolves⟩ := exists_part_of_resolve_stub keeps shared success
            cases sorts with
            | struct kind _ =>
                obtain ⟨notBrand, shape⟩ := sameShape_of_kept_struct resolves
                obtain ⟨origin, there, success⟩ := shape.exists_child_of_mem_right here
                have inside (part : Node) (member : part ∈ origin.parts) :=
                  keeps.inner kept (mem_parts_of_child notBrand there member)
                have originFree := (keeps.refFree kept).of_mem_children there
                exact ⟨_, origin, found, originFree, inside, success, sorted⟩
            | branded => exact absurd rfl (notBrand _ _)
            | builtIn | literal | enumeration | dateTime => cases among
            | _ => cases shared
        | false =>
            obtain ⟨fewer, rfl, ⟨key, _, isRef, _⟩ | ⟨_, _, resolves⟩⟩ :=
              resolveWith_eq_ok_cases success
            · exact absurd isRef (stub_ne_ref refFree.here shared key)
            obtain ⟨origin, there, success⟩ :=
              (sameShape_of_stub shared resolves).exists_child_of_mem_right here
            exact ⟨fewer, origin, found, refFree.of_mem_children there, each origin there, success,
              sorted⟩
      obtain ⟨fewer, origin, found, originFree, originInside, success, sorted⟩ := stands
      rw [stub_eq_of_resolve_stub keeps free originFree originInside success sorted] at success
      exact ih child among (refFree.of_mem_children among) (each child among) success sorted below

end

/-! ## Compiled schemas -/

variable {schemas : Dict Node} {bundle : Bundle} {name : String} {node : Node}

theorem bundle_eq_of_compile (refFree : AllRefFree schemas)
    (compiled : compile schemas = .ok bundle) :
    bundle = { table := storeAll [] (partsOf schemas)
               roots := schemas.map fun schema => (schema.1, schema.2.stub) } := by
  rw [compile_eq refFree] at compiled
  exact (Except.ok.inj compiled).symm

/-- The root of a schema is its stub. -/
theorem root?_of_compile (refFree : AllRefFree schemas) (compiled : compile schemas = .ok bundle)
    (found : Dict.get? schemas name = some node) : bundle.root? name = some node.stub := by
  rw [bundle_eq_of_compile refFree compiled, root?, Dict.get?_map, found]
  rfl

theorem mem_partsOf {schema : String × Node} (among : schema ∈ schemas) {part : Node}
    (member : part ∈ schema.2.parts) : part ∈ partsOf schemas :=
  List.mem_flatMap.mpr ⟨schema, among, member⟩

/-- A key leads to what is kept of the first part under it. -/
theorem lookup_of_compile (refFree : AllRefFree schemas) (compiled : compile schemas = .ok bundle)
    (key : String) :
    bundle.registry.lookup key =
      match Dict.get? ((partsOf schemas).map fun part => (part.contentKey, part.kept)) key with
      | some node => .ok node
      | none => .error (.unknownKey key) := by
  have distinct : ((storeAll [] (partsOf schemas)).map Prod.fst).Nodup :=
    nodup_storeAll (by simp) _
  have stored := lookup_ofNodes distinct key
  rw [get?_storeAll, List.nil_append] at stored
  rw [bundle_eq_of_compile refFree compiled]
  exact stored

/-- The registry of a bundle holds what is kept of the parts of its schemas. -/
theorem keeps_of_compile (refFree : AllRefFree schemas) (compiled : compile schemas = .ok bundle) :
    Keeps bundle.registry (partsOf schemas) where
  found {key node} success := by
    rw [lookup_of_compile refFree compiled] at success
    split at success
    next found =>
      cases success
      obtain ⟨part, member, same⟩ := List.mem_map.mp (Dict.mem_of_get?_eq_some found)
      obtain ⟨rfl, rfl⟩ := Prod.mk.inj same
      exact ⟨part, member, rfl, rfl⟩
    next => cases success
  refFree member := by
    obtain ⟨schema, among, inside⟩ := List.mem_flatMap.mp member
    exact (refFree schema among).of_mem_parts inside
  shared member := by
    obtain ⟨schema, among, inside⟩ := List.mem_flatMap.mp member
    exact isShared_of_mem_parts inside
  inner member := by
    obtain ⟨schema, among, inside⟩ := List.mem_flatMap.mp member
    exact fun inner below => mem_partsOf among (parts_trans inside below)

/-- A bundle gives every schema back, up to declaration order. -/
def Restores (bundle : Bundle) (schemas : Dict Node) : Prop :=
  Forall₂ (fun schema root => ∃ resolved, bundle.registry.resolve root.2 = .ok resolved ∧
    resolved.sorted = schema.2.sorted) schemas bundle.roots

theorem restores_iff_of_compile (refFree : AllRefFree schemas)
    (compiled : compile schemas = .ok bundle) :
    bundle.Restores schemas ↔ ∀ schema ∈ schemas, ∃ resolved,
      bundle.registry.resolve schema.2.stub = .ok resolved ∧
        resolved.sorted = schema.2.sorted := by
  have roots : bundle.roots = schemas.map fun schema => (schema.1, schema.2.stub) := by
    rw [bundle_eq_of_compile refFree compiled]
  rw [Restores, roots, List.forall₂_map_right_iff, List.forall₂_same]

/-- Schemas whose roots resolve are given back exactly when their parts are told apart by their
canonical forms. -/
theorem restores_iff_toldApart (refFree : AllRefFree schemas)
    (compiled : compile schemas = .ok bundle)
    (resolvable : ∀ root ∈ bundle.roots, ∃ resolved, bundle.registry.resolve root.2 = .ok resolved)
    (free : CollisionFree (partsOf schemas)) :
    bundle.Restores schemas ↔ ToldApart (partsOf schemas) := by
  have keeps := keeps_of_compile refFree compiled
  rw [restores_iff_of_compile refFree compiled]
  constructor
  · intro restored first one second two same
    have resolves (part : Node) (member : part ∈ partsOf schemas) :
        ∃ steps found, resolveWith bundle.registry.lookup steps part.stub = .ok found ∧
          found.sorted = part.sorted := by
      obtain ⟨schema, among, inside⟩ := List.mem_flatMap.mp member
      obtain ⟨resolved, success, sorted⟩ := restored schema among
      exact exists_resolve_of_mem_parts keeps free (refFree schema among)
        (fun _ => mem_partsOf among) success sorted inside
    obtain ⟨steps, found, success, sorted⟩ := resolves first one
    obtain ⟨steps', found', success', sorted'⟩ := resolves second two
    -- Both parts have one stub, which resolves to one node however many steps there are.
    rw [stub_of_isShared (keeps.shared one), contentKey, same] at success
    rw [stub_of_isShared (keeps.shared two), contentKey] at success'
    have here := resolveWith_mono (Nat.le_max_left steps steps') success
    have there := resolveWith_mono (Nat.le_max_right steps steps') success'
    obtain rfl := Except.ok.inj (here.symm.trans there)
    exact sorted.symm.trans sorted'
  · intro apart schema among
    have roots : (schema.1, schema.2.stub) ∈ bundle.roots := by
      rw [bundle_eq_of_compile refFree compiled]
      exact List.mem_map_of_mem among
    obtain ⟨resolved, success⟩ := resolvable _ roots
    exact ⟨resolved, success, (alike_of_resolve_stub (merges_sorted free apart) keeps
      (refFree schema among) (fun _ => mem_partsOf among) success).symm⟩

end Schemata.Bundle
