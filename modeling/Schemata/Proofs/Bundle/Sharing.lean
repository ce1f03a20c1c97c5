import Schemata.Bundle.Basic
import Schemata.Proofs.Dictionary
import Schemata.Proofs.Node.Shape
import Schemata.Proofs.Outcome

/-!
# What sharing stores

Rewriting a node leaves a stub of it behind, and stores its shared parts in order.  A part that is
stored under its content key stays there, so every later part under that key is dropped.
-/

namespace Schemata

open List (Forall₂)

namespace Node

/-! ## Stubs and parts -/

mutual

/-- The node with its outermost leaves, brands and structs replaced by references to them. -/
def stub : Node → Node
  | .list item => .list (stub item)
  | .record item => .record (stub item)
  | .tuple elements => .tuple (stubs elements)
  | .union members discriminator => .union (stubs members) discriminator
  | .intersection members kind => .intersection (stubs members) kind
  | .constrained inner validators => .constrained (stub inner) validators
  | .cast inner target strategy => .cast (stub inner) target strategy
  | .named inner name => .named (stub inner) name
  | .ref key => .ref key
  | node => .ref node.contentKey

def stubs : List Node → List Node
  | [] => []
  | node :: rest => stub node :: stubs rest

end

mutual

/-- The leaves, brands and structs of a node in the order in which they are stored. -/
def parts : Node → List Node
  | .list item => parts item
  | .record item => parts item
  | .tuple elements => partsAll elements
  | .union members _ => partsAll members
  | .intersection members _ => partsAll members
  | .constrained inner _ => parts inner
  | .cast inner _ _ => parts inner
  | .named inner _ => parts inner
  | .struct kind properties => partsEach properties ++ [.struct kind properties]
  | .ref _ => []
  | node => [node]

def partsAll : List Node → List Node
  | [] => []
  | node :: rest => parts node ++ partsAll rest

def partsEach : List (Property Node) → List Node
  | [] => []
  | ⟨_, node, _, _⟩ :: rest => parts node ++ partsEach rest

end

/-- What is stored for a part: a struct with stubs of its properties, and any other part whole. -/
def kept : Node → Node
  | .struct kind properties =>
      .struct kind (properties.map fun property => { property with node := property.node.stub })
  | node => node

/-- Whether a node moves into the table. -/
def isShared : Node → Bool
  | .builtIn _ | .literal _ | .enumeration _ | .dateTime .. | .branded .. | .struct .. => true
  | _ => false

theorem stubs_eq_map (nodes : List Node) : stubs nodes = nodes.map stub := by
  induction nodes with
  | nil => rfl
  | cons node rest ih => exact congrArg (stub node :: ·) ih

theorem partsAll_eq_flatMap (nodes : List Node) : partsAll nodes = nodes.flatMap parts := by
  induction nodes with
  | nil => rfl
  | cons node rest ih => rw [partsAll, ih, List.flatMap_cons]

theorem partsEach_eq_flatMap (properties : List (Property Node)) :
    partsEach properties = (properties.map Property.node).flatMap parts := by
  induction properties with
  | nil => rfl
  | cons property rest ih =>
      cases property
      rw [partsEach, ih, List.map_cons, List.flatMap_cons]

theorem stub_of_isShared {node : Node} (shared : node.isShared = true) :
    node.stub = .ref node.contentKey := by
  cases node <;> first | rfl | cases shared

theorem stub_ne_ref {node : Node} (notRef : node.isRef = false) (notShared : node.isShared = false)
    (key : String) : node.stub ≠ .ref key := by
  cases node with
  | ref => cases notRef
  | builtIn | literal | enumeration | dateTime | branded | struct => cases notShared
  | list | record | tuple | union | intersection | constrained | cast | named =>
      exact Node.noConfusion

/-- The parts of a node are those of its children, unless it is a brand, and itself when it is
shared. -/
theorem mem_parts_iff {node part : Node} :
    part ∈ node.parts ↔ (part = node ∧ node.isShared = true) ∨
      ((∀ inner tag, node ≠ .branded inner tag) ∧ ∃ child ∈ node.children, part ∈ child.parts) := by
  cases node with
  | builtIn | literal | enumeration | dateTime | ref => simp [parts, isShared, children]
  | branded inner tag => simp [parts, isShared]
  | list | record | constrained | cast | named => simp [parts, isShared, children]
  | tuple members | union members _ | intersection members _ =>
      simp [parts, isShared, children, partsAll_eq_flatMap]
  | struct kind properties =>
      simp [parts, isShared, children, partsEach_eq_flatMap, or_comm]

theorem mem_parts_of_child {node child part : Node}
    (notBrand : ∀ inner tag, node ≠ .branded inner tag) (member : child ∈ node.children)
    (inside : part ∈ child.parts) : part ∈ node.parts :=
  mem_parts_iff.mpr (Or.inr ⟨notBrand, child, member, inside⟩)

theorem not_branded_of_not_shared {node : Node} (notShared : node.isShared = false) (inner : Node)
    (tag : String) : node ≠ .branded inner tag := by
  rintro rfl
  cases notShared

theorem self_mem_parts {node : Node} (shared : node.isShared = true) : node ∈ node.parts :=
  mem_parts_iff.mpr (Or.inl ⟨rfl, shared⟩)

theorem isShared_of_mem_parts {node part : Node} (member : part ∈ node.parts) :
    part.isShared = true := by
  induction node using induction_on_children with
  | step node ih =>
      rcases mem_parts_iff.mp member with ⟨rfl, shared⟩ | ⟨_, child, among, inside⟩
      · exact shared
      · exact ih child among inside

/-- The parts of a part are parts. -/
theorem parts_trans {node part inner : Node} (outer : part ∈ node.parts)
    (member : inner ∈ part.parts) : inner ∈ node.parts := by
  induction node using induction_on_children with
  | step node ih =>
      rcases mem_parts_iff.mp outer with ⟨rfl, _⟩ | ⟨notBrand, child, among, inside⟩
      · exact member
      · exact mem_parts_iff.mpr (Or.inr ⟨notBrand, child, among, ih child among inside⟩)

/-- What holds everywhere in a node holds everywhere in its parts. -/
theorem Everywhere.of_mem_parts {holds : Node → Prop} {node part : Node}
    (everywhere : node.Everywhere holds) (member : part ∈ node.parts) : part.Everywhere holds := by
  induction node using induction_on_children with
  | step node ih =>
      rcases mem_parts_iff.mp member with ⟨rfl, _⟩ | ⟨_, child, among, inside⟩
      · exact everywhere
      · exact ih child among (everywhere.of_mem_children among) inside

/-! ## Shapes of stubs -/

section

variable {related : Node → Node → Prop} {node other : Node}

/-- A node that is not shared has the shape of its stub, whose children are stubs. -/
theorem sameShape_of_stub (notShared : node.isShared = false)
    (shape : SameShape related node.stub other) :
    SameShape (fun child other => related child.stub other) node other := by
  have members {nodes others : List Node} (pairwise : Forall₂ related (stubs nodes) others) :
      Forall₂ (fun child other => related child.stub other) nodes others := by
    rwa [stubs_eq_map, List.forall₂_map_left_iff] at pairwise
  cases node with
  | builtIn | literal | enumeration | dateTime | branded | struct => cases notShared
  | ref key => cases shape
  | list item => cases shape with | list item => exact .list item
  | record item => cases shape with | record item => exact .record item
  | tuple nodes => cases shape with | tuple elements => exact .tuple (members elements)
  | union nodes discriminator =>
      cases shape with | union _ inner => exact .union discriminator (members inner)
  | intersection nodes kind =>
      cases shape with | intersection _ inner => exact .intersection kind (members inner)
  | constrained inner validators =>
      cases shape with | constrained _ inner => exact .constrained validators inner
  | cast inner target strategy =>
      cases shape with | cast _ _ inner => exact .cast target strategy inner
  | named inner name => cases shape with | named _ inner => exact .named name inner

/-- A struct has the shape of what is kept of it, in which its properties are stubs. -/
theorem sameShape_of_kept {kind : StructKind} {properties : List (Property Node)}
    (shape : SameShape related (kept (.struct kind properties)) other) :
    SameShape (fun child other => related child.stub other) (.struct kind properties) other := by
  cases shape with
  | struct _ pairwise =>
      refine .struct kind ?_
      rw [sortedProperties_map stub, List.forall₂_map_left_iff] at pairwise
      exact pairwise.imp fun _ _ same => ⟨same.name, same.optional, same.direction, same.node⟩

end

end Node

namespace Sharing

open Node

/-- The table with an entry, unless its key is taken. -/
def putNew (table : Dict Node) (entry : String × Node) : Dict Node :=
  if Dict.contains table entry.1 then table else Dict.insert table entry.1 entry.2

/-- The table after some parts have been stored in order under their content keys. -/
def storeAll (table : Dict Node) (parts : List Node) : Dict Node :=
  (parts.map fun part => (part.contentKey, part.kept)).foldl putNew table

theorem storeAll_append (table : Dict Node) (first second : List Node) :
    storeAll table (first ++ second) = storeAll (storeAll table first) second := by
  rw [storeAll, List.map_append, List.foldl_append]
  rfl

theorem store_run (part : Node) (table : Dict Node) :
    store part part.kept table = .ok (.ref part.contentKey) (storeAll table [part]) := by
  have got : (get : Sharing (Dict Node)) table = .ok table table := rfl
  rw [store, EStateM.bind_of_ok got]
  cases taken : Dict.contains table part.contentKey with
  | true =>
      have kept : storeAll table [part] = table := if_pos taken
      rw [kept]
      rfl
  | false =>
      have added : storeAll table [part] = Dict.insert table part.contentKey part.kept :=
        if_neg (ne_true_of_eq_false taken)
      rw [added]
      rfl

variable {nodes : List Node} {properties : List (Property Node)}

theorem shareAll_run
    (each : ∀ child ∈ nodes, ∀ table,
      share child table = .ok child.stub (storeAll table child.parts))
    (table : Dict Node) :
    shareAll nodes table = .ok (stubs nodes) (storeAll table (partsAll nodes)) := by
  induction nodes generalizing table with
  | nil => rfl
  | cons node rest ih =>
      rw [shareAll, EStateM.bind_of_ok (each node List.mem_cons_self table), EStateM.bind_of_ok
        (ih (fun child member => each child (List.mem_cons_of_mem _ member)) _), partsAll,
        storeAll_append]
      rfl

theorem shareProperties_run
    (each : ∀ child ∈ properties.map Property.node, ∀ table,
      share child table = .ok child.stub (storeAll table child.parts))
    (table : Dict Node) :
    shareProperties properties table =
      .ok (properties.map fun property => { property with node := property.node.stub })
        (storeAll table (partsEach properties)) := by
  induction properties generalizing table with
  | nil => rfl
  | cons property rest ih =>
      cases property
      rw [shareProperties, EStateM.bind_of_ok (each _ List.mem_cons_self table), EStateM.bind_of_ok
        (ih (fun child member => each child (List.mem_cons_of_mem _ member)) _), partsEach,
        storeAll_append]
      rfl

/-- A node without references leaves its stub behind and stores its parts. -/
theorem share_run {node : Node} (refFree : node.RefFree) (table : Dict Node) :
    share node table = .ok node.stub (storeAll table node.parts) := by
  induction node using induction_on_children generalizing table with
  | step node ih =>
      have each (child : Node) (member : child ∈ node.children) (table : Dict Node) :=
        ih child member (refFree.of_mem_children member) table
      cases node with
      | ref key => cases refFree.here
      | builtIn | literal | enumeration | dateTime | branded => exact store_run _ table
      | list item | record item | constrained item _ | cast item _ _ | named item _ =>
          rw [share, EStateM.bind_of_ok (each item (List.mem_singleton_self _) table)]
          rfl
      | tuple members | union members _ | intersection members _ =>
          have inside : shareAll members table = _ := shareAll_run each table
          rw [share, EStateM.bind_of_ok inside]
          rfl
      | struct kind properties =>
          rw [share, EStateM.bind_of_ok (shareProperties_run each table), parts, storeAll_append]
          exact store_run (.struct kind properties) _

/-! ## The table -/

/-- The first part under a content key is the one that is kept. -/
theorem get?_storeAll (table : Dict Node) (parts : List Node) (key : String) :
    Dict.get? (storeAll table parts) key =
      Dict.get? (table ++ parts.map fun part => (part.contentKey, part.kept)) key := by
  unfold storeAll
  induction parts.map fun part => (part.contentKey, part.kept) generalizing table with
  | nil => rw [List.foldl_nil, List.append_nil]
  | cons entry rest ih =>
      rw [List.foldl_cons, ih, putNew, Dict.contains_eq_isSome]
      rw [Dict.get?_append, Dict.get?_append, Dict.get?_cons]
      cases taken : Dict.get? table entry.1 with
      | none =>
          rw [if_neg (by simp), Dict.get?_insert]
          by_cases same : entry.1 = key
          · simp [← same, taken]
          · simp [same, Ne.symm same]
      | some node =>
          rw [if_pos (by simp)]
          by_cases same : entry.1 = key
          · simp [← same, taken]
          · simp [same]

/-- A table under distinct keys stays so. -/
theorem nodup_storeAll {table : Dict Node} (distinct : (table.map Prod.fst).Nodup)
    (parts : List Node) : ((storeAll table parts).map Prod.fst).Nodup := by
  unfold storeAll
  induction parts.map fun part => (part.contentKey, part.kept) generalizing table with
  | nil => exact distinct
  | cons entry rest ih =>
      refine ih ?_
      unfold putNew
      cases taken : Dict.contains table entry.1 with
      | true => exact distinct
      | false =>
          have absent := taken
          rw [Dict.contains_eq_isSome, Option.isSome_eq_false_iff, Option.isNone_iff_eq_none,
            Dict.get?_eq_none_iff] at absent
          rw [if_neg (by simp), ((Dict.insert_perm_of_not_contains _ taken).map Prod.fst).nodup_iff]
          exact List.nodup_cons.mpr ⟨absent, distinct⟩

/-- A table in ascending order of its keys stays so. -/
theorem ascending_storeAll {table : Dict Node}
    (ascending : (table.map Prod.fst).Pairwise (· < ·)) (parts : List Node) :
    ((storeAll table parts).map Prod.fst).Pairwise (· < ·) := by
  unfold storeAll
  induction parts.map fun part => (part.contentKey, part.kept) generalizing table with
  | nil => exact ascending
  | cons entry rest ih =>
      refine ih ?_
      unfold putNew
      split
      · exact ascending
      · exact Dict.ascending_insert ascending entry.1 entry.2

end Sharing

namespace Bundle

open Sharing

def partsOf (schemas : Dict Node) : List Node :=
  schemas.flatMap fun schema => schema.2.parts

/-- No schema contains a reference. -/
def AllRefFree (schemas : Dict Node) : Prop :=
  ∀ schema ∈ schemas, schema.2.RefFree

theorem addAll_eq {schemas : Dict Node} (refFree : AllRefFree schemas) (bundle : Bundle) :
    addAll bundle schemas = .ok
      { table := storeAll bundle.table (partsOf schemas)
        roots := bundle.roots ++ schemas.map fun schema => (schema.1, schema.2.stub) } := by
  induction schemas generalizing bundle with
  | nil => rw [addAll, List.map_nil, List.append_nil]; rfl
  | cons schema rest ih =>
      obtain ⟨name, node⟩ := schema
      have run := share_run (refFree _ List.mem_cons_self) bundle.table
      have inside : AllRefFree rest := fun other member =>
        refFree other (List.mem_cons_of_mem _ member)
      simp only [addAll, EStateM.run, run, ih inside, partsOf, List.flatMap_cons, storeAll_append,
        List.map_cons, List.append_assoc, List.singleton_append]

/-- Schemas without references are always accepted, and their roots are their stubs. -/
theorem compile_eq {schemas : Dict Node} (refFree : AllRefFree schemas) :
    compile schemas = .ok
      { table := storeAll [] (partsOf schemas)
        roots := schemas.map fun schema => (schema.1, schema.2.stub) } :=
  addAll_eq refFree _

end Bundle

end Schemata
