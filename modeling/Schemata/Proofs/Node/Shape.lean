import Mathlib.Data.List.Forall2
import Mathlib.Logic.Relation
import Schemata.Node.Canonical
import Schemata.Proofs.Node.Children

/-!
# Nodes of one shape

Two nodes have one shape when they are built alike and their children are related in order.  The
properties of structs are compared in the order of their names, which is the order in which they
are written and walked.
-/

namespace Schemata

open List (Forall₂)

theorem mem_sortByName {α : Type} {name : α → String} {entries : List α} {entry : α} :
    entry ∈ sortByName name entries ↔ entry ∈ entries :=
  (List.mergeSort_perm _ _).mem_iff

theorem mem_sortedProperties {ν : Type} {properties : List (Property ν)} {property : Property ν} :
    property ∈ sortedProperties properties ↔ property ∈ properties :=
  mem_sortByName

theorem nodup_sortedProperties {ν : Type} {properties : List (Property ν)}
    (names : (properties.map Property.name).Nodup) :
    ((sortedProperties properties).map Property.name).Nodup :=
  ((List.mergeSort_perm _ _).map Property.name).nodup_iff.mpr names

/-- Distinct names are in ascending order after sorting. -/
theorem ascending_sortedProperties {ν : Type} {properties : List (Property ν)}
    (names : (properties.map Property.name).Nodup) :
    ((sortedProperties properties).map Property.name).Pairwise (· < ·) := by
  have sorted : (sortedProperties properties).Pairwise fun left right =>
      (!decide (right.name < left.name)) = true := by
    apply List.pairwise_mergeSort
    · intro left middle right one two
      simp only [Bool.not_eq_true', decide_eq_false_iff_not, String.not_lt] at one two ⊢
      exact String.le_trans one two
    · intro left right
      simp only [Bool.or_eq_true, Bool.not_eq_true', decide_eq_false_iff_not, String.not_lt]
      exact String.le_total _ _
  have distinct := nodup_sortedProperties names
  rw [List.Nodup, List.pairwise_map] at distinct
  rw [List.pairwise_map]
  refine sorted.imp₂ (fun left right below differs => ?_) distinct
  by_contra above
  simp only [Bool.not_eq_true', decide_eq_false_iff_not, String.not_lt] at below above
  exact differs (String.le_antisymm below above)

/-- A change that keeps the names moves past sorting. -/
theorem map_sortByName {α β : Type} (change : α → β) {name : α → String} {name' : β → String}
    {entries : List α} (names : ∀ entry ∈ entries, name entry = name' (change entry)) :
    (sortByName name entries).map change = sortByName name' (entries.map change) := by
  apply List.map_mergeSort
  intro left leftMember right rightMember
  rw [names left leftMember, names right rightMember]

theorem sortedProperties_singleton {ν : Type} (property : Property ν) :
    sortedProperties [property] = [property] :=
  List.mergeSort_singleton property

theorem mergeSort_pair {α : Type} (ahead : α → α → Bool) (first second : α) :
    [first, second].mergeSort ahead =
      if ahead first second then [first, second] else [second, first] := by
  simp [List.mergeSort, List.MergeSort.Internal.splitInTwo, List.cons_merge_cons]

theorem sortedProperties_pair {ν : Type} (first second : Property ν) :
    sortedProperties [first, second] =
      if second.name < first.name then [second, first] else [first, second] := by
  rw [sortedProperties, sortByName, mergeSort_pair]
  by_cases swapped : second.name < first.name
  · rw [if_pos swapped, decide_eq_true swapped]
    rfl
  · rw [if_neg swapped, decide_eq_false swapped]
    rfl

/-- Changing the nodes of properties keeps their order. -/
theorem sortedProperties_map {ν μ : Type} (change : ν → μ) (properties : List (Property ν)) :
    sortedProperties (properties.map fun property =>
        { property with node := change property.node }) =
      (sortedProperties properties).map fun property =>
        { property with node := change property.node } := by
  refine (map_sortByName _ ?_).symm
  exact fun _ _ => rfl

/-- Entries that are related pairwise and share their names stay so when both sides are sorted. -/
theorem forall₂_sortByName {α β : Type} {related : α → β → Prop} {name : α → String}
    {name' : β → String} (names : ∀ left right, related left right → name left = name' right)
    {lefts : List α} {rights : List β} (pairwise : Forall₂ related lefts rights) :
    Forall₂ related (sortByName name lefts) (sortByName name' rights) := by
  obtain ⟨lengths, inside⟩ := List.forall₂_iff_zip.mp pairwise
  -- Both sides are sorted by sorting the pairs, since a pair carries one name.
  let pairs := sortByName (fun pair => name pair.1) (lefts.zip rights)
  have left : pairs.map Prod.fst = sortByName name lefts := by
    rw [map_sortByName Prod.fst fun _ _ => rfl, List.map_fst_zip (Nat.le_of_eq lengths)]
  have right : pairs.map Prod.snd = sortByName name' rights := by
    rw [map_sortByName Prod.snd fun pair member => names _ _ (inside member),
      List.map_snd_zip (Nat.le_of_eq lengths.symm)]
  rw [← left, ← right, List.forall₂_map_left_iff, List.forall₂_map_right_iff, List.forall₂_same]
  intro pair member
  exact inside (mem_sortByName.mp member)

theorem forall₂_comp {α β γ : Type} {first : α → β → Prop} {second : β → γ → Prop}
    {lefts : List α} {middles : List β} {rights : List γ} (one : Forall₂ first lefts middles)
    (two : Forall₂ second middles rights) :
    Forall₂ (Relation.Comp first second) lefts rights := by
  induction one generalizing rights with
  | nil => rwa [List.forall₂_nil_left_iff] at two ⊢
  | cons here _ ih =>
      cases two with
      | cons there rest => exact .cons ⟨_, here, there⟩ (ih rest)

/-- Every item of the second of two related lists is related to one of the first. -/
theorem exists_mem_left_of_forall₂ {α β : Type} {related : α → β → Prop} {lefts : List α}
    {rights : List β} (pairwise : Forall₂ related lefts rights) {right : β}
    (member : right ∈ rights) : ∃ left ∈ lefts, related left right := by
  induction pairwise with
  | nil => cases member
  | cons here _ ih =>
      rcases List.mem_cons.mp member with rfl | there
      · exact ⟨_, List.mem_cons_self, here⟩
      · obtain ⟨left, inside, found⟩ := ih there
        exact ⟨left, List.mem_cons_of_mem _ inside, found⟩

/-- Lists that are related in order have related items, or none, at every index. -/
theorem forall₂_getElem? {α β : Type} {related : α → β → Prop} {lefts : List α} {rights : List β}
    (pairwise : Forall₂ related lefts rights) (index : Nat) :
    Option.Rel related lefts[index]? rights[index]? := by
  induction pairwise generalizing index with
  | nil => exact .none
  | cons here _ ih =>
      cases index with
      | zero => exact .some here
      | succ index => exact ih index

/-- Two properties that differ in their nodes only, which are related. -/
structure Property.Related (related : Node → Node → Prop) (left right : Property Node) : Prop where
  name : left.name = right.name
  optional : left.optional = right.optional
  direction : left.direction = right.direction
  node : related left.node right.node

/-- Pairwise related properties stay so in the order of their names. -/
theorem Property.Related.sorted {related : Node → Node → Prop}
    {lefts rights : List (Property Node)}
    (pairwise : Forall₂ (Property.Related related) lefts rights) :
    Forall₂ (Property.Related related) (sortedProperties lefts) (sortedProperties rights) :=
  forall₂_sortByName (fun _ _ same => same.name) pairwise

namespace Node

/-- Two nodes that are built alike, with related children. -/
inductive SameShape (related : Node → Node → Prop) : Node → Node → Prop where
  | builtIn (kind : BuiltIn) : SameShape related (.builtIn kind) (.builtIn kind)
  | literal (value : Literal) : SameShape related (.literal value) (.literal value)
  | enumeration (name : String) : SameShape related (.enumeration name) (.enumeration name)
  | dateTime (className : String) (format : DateTimeFormat) :
      SameShape related (.dateTime className format) (.dateTime className format)
  | list {left right : Node} (item : related left right) :
      SameShape related (.list left) (.list right)
  | record {left right : Node} (item : related left right) :
      SameShape related (.record left) (.record right)
  | tuple {lefts rights : List Node} (elements : Forall₂ related lefts rights) :
      SameShape related (.tuple lefts) (.tuple rights)
  | struct (kind : StructKind) {lefts rights : List (Property Node)}
      (properties : Forall₂ (Property.Related related) (sortedProperties lefts)
        (sortedProperties rights)) :
      SameShape related (.struct kind lefts) (.struct kind rights)
  | union {lefts rights : List Node} (discriminator : Option Discriminator)
      (members : Forall₂ related lefts rights) :
      SameShape related (.union lefts discriminator) (.union rights discriminator)
  | intersection {lefts rights : List Node} (kind : StructKind)
      (members : Forall₂ related lefts rights) :
      SameShape related (.intersection lefts kind) (.intersection rights kind)
  | constrained {left right : Node} (validators : List Validator) (inner : related left right) :
      SameShape related (.constrained left validators) (.constrained right validators)
  | cast {left right : Node} (target : String) (strategy : CastingStrategy)
      (inner : related left right) :
      SameShape related (.cast left target strategy) (.cast right target strategy)
  | branded {left right : Node} (tag : String) (inner : related left right) :
      SameShape related (.branded left tag) (.branded right tag)
  | named {left right : Node} (name : String) (inner : related left right) :
      SameShape related (.named left name) (.named right name)

namespace SameShape

variable {related : Node → Node → Prop} {left right : Node}

theorem isRef_left (same : SameShape related left right) : left.isRef = false := by
  cases same <;> rfl

theorem isRef_right (same : SameShape related left right) : right.isRef = false := by
  cases same <;> rfl

/-- What is no reference has its own shape, when its children are related to themselves. -/
theorem refl_mem {node : Node} (notRef : node.isRef = false)
    (each : ∀ child ∈ node.children, related child child) : SameShape related node node := by
  have members {nodes : List Node} (inside : ∀ child ∈ nodes, related child child) :
      Forall₂ related nodes nodes := List.forall₂_same.mpr inside
  cases node with
  | builtIn kind => exact .builtIn kind
  | literal value => exact .literal value
  | enumeration name => exact .enumeration name
  | dateTime className format => exact .dateTime className format
  | list item => exact .list (each item (List.mem_singleton_self item))
  | record item => exact .record (each item (List.mem_singleton_self item))
  | tuple elements => exact .tuple (members each)
  | struct kind properties =>
      refine .struct kind (List.forall₂_same.mpr fun property among => ⟨rfl, rfl, rfl, ?_⟩)
      exact each _ (List.mem_map_of_mem (mem_sortedProperties.mp among))
  | union nodes discriminator => exact .union discriminator (members each)
  | intersection nodes kind => exact .intersection kind (members each)
  | constrained inner validators =>
      exact .constrained validators (each inner (List.mem_singleton_self inner))
  | cast inner target strategy =>
      exact .cast target strategy (each inner (List.mem_singleton_self inner))
  | branded inner tag => exact .branded tag (each inner (List.mem_singleton_self inner))
  | named inner name => exact .named name (each inner (List.mem_singleton_self inner))
  | ref => cases notRef

/-- Where children of the one node are related, they may be related more weakly. -/
theorem mono_mem {weaker : Node → Node → Prop} (same : SameShape related left right)
    (implies : ∀ child other, child ∈ left.children → related child other → weaker child other) :
    SameShape weaker left right := by
  have members {lefts rights : List Node}
      (inside : ∀ child ∈ lefts, ∀ other, related child other → weaker child other)
      (pairwise : Forall₂ related lefts rights) : Forall₂ weaker lefts rights := by
    rw [List.forall₂_iff_zip] at pairwise ⊢
    exact ⟨pairwise.1, fun pair => inside _ (List.of_mem_zip pair).1 _ (pairwise.2 pair)⟩
  cases same with
  | builtIn kind => exact .builtIn kind
  | literal value => exact .literal value
  | enumeration name => exact .enumeration name
  | dateTime className format => exact .dateTime className format
  | list item => exact .list (implies _ _ (by simp [children]) item)
  | record item => exact .record (implies _ _ (by simp [children]) item)
  | tuple elements => exact .tuple (members (fun child member other => implies _ _ member) elements)
  | struct kind properties =>
      refine .struct kind ?_
      rw [List.forall₂_iff_zip] at properties ⊢
      refine ⟨properties.1, fun {property other} pair => ?_⟩
      have related := properties.2 pair
      have inside := mem_sortedProperties.mp (List.of_mem_zip pair).1
      exact ⟨related.name, related.optional, related.direction,
        implies _ _ (List.mem_map_of_mem inside) related.node⟩
  | union discriminator inner =>
      exact .union discriminator (members (fun child member other => implies _ _ member) inner)
  | intersection kind inner =>
      exact .intersection kind (members (fun child member other => implies _ _ member) inner)
  | constrained validators inner =>
      exact .constrained validators (implies _ _ (by simp [children]) inner)
  | cast target strategy inner =>
      exact .cast target strategy (implies _ _ (by simp [children]) inner)
  | branded tag inner => exact .branded tag (implies _ _ (by simp [children]) inner)
  | named name inner => exact .named name (implies _ _ (by simp [children]) inner)

theorem mono {weaker : Node → Node → Prop} (same : SameShape related left right)
    (implies : ∀ child other, related child other → weaker child other) :
    SameShape weaker left right :=
  same.mono_mem fun _ _ _ => implies _ _

/-- Shapes compose. -/
theorem comp {first second : Node → Node → Prop} {middle : Node}
    (one : SameShape first left middle) (two : SameShape second middle right) :
    SameShape (Relation.Comp first second) left right := by
  cases one with
  | builtIn kind => cases two; exact .builtIn kind
  | literal value => cases two; exact .literal value
  | enumeration name => cases two; exact .enumeration name
  | dateTime className format => cases two; exact .dateTime className format
  | list here => cases two with | list there => exact .list ⟨_, here, there⟩
  | record here => cases two with | record there => exact .record ⟨_, here, there⟩
  | tuple here => cases two with | tuple there => exact .tuple (forall₂_comp here there)
  | struct kind here =>
      cases two with
      | struct _ there =>
          refine .struct kind ((forall₂_comp here there).imp ?_)
          rintro _ _ ⟨_, one, two⟩
          exact ⟨one.name.trans two.name, one.optional.trans two.optional,
            one.direction.trans two.direction, _, one.node, two.node⟩
  | union discriminator here =>
      cases two with | union _ there => exact .union discriminator (forall₂_comp here there)
  | intersection kind here =>
      cases two with | intersection _ there => exact .intersection kind (forall₂_comp here there)
  | constrained validators here =>
      cases two with | constrained _ there => exact .constrained validators ⟨_, here, there⟩
  | cast target strategy here =>
      cases two with | cast _ _ there => exact .cast target strategy ⟨_, here, there⟩
  | branded tag here => cases two with | branded _ there => exact .branded tag ⟨_, here, there⟩
  | named name here => cases two with | named _ there => exact .named name ⟨_, here, there⟩

/-- A shape can be read from the other side. -/
theorem flip (same : SameShape related left right) :
    SameShape (Function.swap related) right left := by
  cases same with
  | builtIn kind => exact .builtIn kind
  | literal value => exact .literal value
  | enumeration name => exact .enumeration name
  | dateTime className format => exact .dateTime className format
  | list item => exact .list item
  | record item => exact .record item
  | tuple elements => exact .tuple elements.flip
  | struct kind properties =>
      refine .struct kind (properties.flip.imp fun _ _ same => ?_)
      exact ⟨same.name.symm, same.optional.symm, same.direction.symm, same.node⟩
  | union discriminator members => exact .union discriminator members.flip
  | intersection kind members => exact .intersection kind members.flip
  | constrained validators inner => exact .constrained validators inner
  | cast target strategy inner => exact .cast target strategy inner
  | branded tag inner => exact .branded tag inner
  | named name inner => exact .named name inner

/-- Every child of the right node is related to one of the left node. -/
theorem exists_child_of_mem_right (same : SameShape related left right) {other : Node}
    (member : other ∈ right.children) : ∃ child ∈ left.children, related child other := by
  cases same with
  | builtIn | literal | enumeration | dateTime => cases member
  | list item | record item | constrained _ item | cast _ _ item | branded _ item
  | named _ item =>
      obtain rfl := List.mem_singleton.mp member
      exact ⟨_, List.mem_singleton_self _, item⟩
  | tuple members | union _ members | intersection _ members =>
      exact exists_mem_left_of_forall₂ members member
  | struct kind properties =>
      obtain ⟨property, inside, rfl⟩ := List.mem_map.mp member
      obtain ⟨found, among, related⟩ :=
        exists_mem_left_of_forall₂ properties (mem_sortedProperties.mpr inside)
      exact ⟨_, List.mem_map_of_mem (mem_sortedProperties.mp among), related.node⟩

end SameShape

end Node

end Schemata
