import Schemata.Node.Build
import Schemata.Proofs.Node.Pinned
import Schemata.Proofs.Outcome

/-!
# Well-formed nodes

What the checks and the inference that build nodes are there for, as a condition on finished nodes:
it has to hold at a node and at everything below it.  Each way of building a node from well-formed
parts gives a well-formed node.
-/

namespace Schemata

open List (Forall₂)

/-- A discriminator that tells the members of a union apart: its texts stand for the members one to
one, each for the literal that its member requires, and the members are structs of one kind. -/
structure Discriminator.Separates (discriminator : Discriminator) (members : List Node) :
    Prop where
  keys : (discriminator.arms.map Prod.fst).Nodup
  arms : (discriminator.arms.map Prod.snd).Perm (List.range members.length)
  pinned : ∀ key arm, (key, arm) ∈ discriminator.arms →
    ∃ member property literal, members[arm]? = some member ∧
      member.Pins discriminator.field property literal ∧ literal.wireKey = key
  kind : ∃ kind, ∀ member ∈ members, ∃ properties, member.struct? = some (kind, properties)

namespace Node

/-- What an instance can be built from: a list for a collection and a struct for anything else, or
a reference to what is not known yet. -/
def IsCastable (strategy : CastingStrategy) (inner : Node) : Prop :=
  (∃ key, inner.unwrapped = .ref key) ∨
    match strategy with
    | .collection => ∃ item, inner.unwrapped = .list item
    | .constructor | .assignProperties =>
        ∃ kind properties, inner.unwrapped = .struct kind properties

/-- What has to hold at a node itself. -/
def IsFormed : Node → Prop
  | .tuple elements => elements ≠ []
  | .struct _ properties => properties ≠ [] ∧ (properties.map Property.name).Nodup
  | .union members discriminator =>
      2 ≤ members.length ∧ (∀ inner, Node.union inner none ∉ members) ∧
        ∀ found, discriminator = some found → found.Separates members
  | .intersection members kind =>
      2 ≤ members.length ∧ ∀ member ∈ members, ∀ found, member.structKind? = some found →
        found = kind
  | .cast inner _ strategy => inner.IsCastable strategy
  | .branded inner _ => inner = .builtIn .int ∨ inner = .builtIn .string
  | _ => True

def WellFormed : Node → Prop :=
  Everywhere IsFormed

variable {node inner : Node}

theorem wellFormed_builtIn (kind : BuiltIn) : WellFormed (.builtIn kind) :=
  .leaf trivial rfl

theorem wellFormed_literal (value : Literal) : WellFormed (.literal value) :=
  .leaf trivial rfl

theorem wellFormed_enumeration (name : String) : WellFormed (.enumeration name) :=
  .leaf trivial rfl

theorem wellFormed_dateTime (className : String) (format : DateTimeFormat) :
    WellFormed (.dateTime className format) :=
  .leaf trivial rfl

theorem wellFormed_list (item : inner.WellFormed) : WellFormed (.list inner) :=
  .intro trivial fun _ member => List.mem_singleton.mp member ▸ item

theorem wellFormed_record (item : inner.WellFormed) : WellFormed (.record inner) :=
  .intro trivial fun _ member => List.mem_singleton.mp member ▸ item

theorem wellFormed_constrained (wellFormed : inner.WellFormed) (validators : List Validator) :
    WellFormed (.constrained inner validators) :=
  .intro trivial fun _ member => List.mem_singleton.mp member ▸ wellFormed

theorem wellFormed_named (wellFormed : inner.WellFormed) (name : String) :
    WellFormed (.named inner name) :=
  .intro trivial fun _ member => List.mem_singleton.mp member ▸ wellFormed

theorem wellFormed_of_tupleOf {elements : List Node} (each : ∀ element ∈ elements,
    element.WellFormed) (built : tupleOf elements = .ok node) : node.WellFormed := by
  unfold tupleOf at built
  split at built
  · cases built
  next some_elements =>
    cases built
    exact .intro (fun nothing => some_elements (nothing ▸ rfl)) each

/-- No name is found a second time among distinct ones only. -/
theorem nodup_of_duplicate?_eq_none {seen names : List String}
    (distinct : duplicate? seen names = none) :
    names.Nodup ∧ ∀ name ∈ names, name ∉ seen := by
  induction names generalizing seen with
  | nil => exact ⟨List.nodup_nil, fun _ nothing => nomatch nothing⟩
  | cons name rest ih =>
      unfold duplicate? at distinct
      split at distinct
      · cases distinct
      next unseen =>
        obtain ⟨nodup, fresh⟩ := ih distinct
        refine ⟨List.nodup_cons.mpr ⟨fun again => ?_, nodup⟩, ?_⟩
        · exact fresh name again List.mem_cons_self
        · rintro other (_ | ⟨_, later⟩)
          · simpa using unseen
          · exact fun known => fresh other later (List.mem_cons_of_mem _ known)

theorem duplicate?_eq_none_of_nodup {seen names : List String} (distinct : names.Nodup)
    (fresh : ∀ name ∈ names, name ∉ seen) : duplicate? seen names = none := by
  induction names generalizing seen with
  | nil => rfl
  | cons name rest ih =>
      obtain ⟨here, later⟩ := List.nodup_cons.mp distinct
      obtain ⟨unseen, freshLater⟩ := List.forall_mem_cons.mp fresh
      rw [duplicate?, if_neg (by simpa using unseen)]
      refine ih later fun other among => ?_
      rw [List.mem_cons, not_or]
      exact ⟨fun same => here (same ▸ among), freshLater other among⟩

theorem structOf_of_nodup {kind : StructKind} {properties : List (Property Node)}
    (some_properties : properties ≠ []) (distinct : (properties.map Property.name).Nodup) :
    structOf kind properties = .ok (.struct kind properties) := by
  have unique : duplicate? [] (properties.map Property.name) = none :=
    duplicate?_eq_none_of_nodup distinct fun _ _ => List.not_mem_nil
  rw [structOf, List.isEmpty_eq_false_iff.mpr some_properties, unique]
  rfl

/-- What is built as a struct is one, with the properties it is built from. -/
theorem structOf_eq_ok {kind : StructKind} {properties : List (Property Node)}
    (built : structOf kind properties = .ok node) :
    node = .struct kind properties ∧ properties ≠ [] ∧
      (properties.map Property.name).Nodup := by
  unfold structOf at built
  split at built
  · cases built
  next some_properties =>
    split at built
    · cases built
    next distinct =>
      cases built
      exact ⟨rfl, fun nothing => some_properties (nothing ▸ rfl),
        (nodup_of_duplicate?_eq_none distinct).1⟩

theorem wellFormed_of_structOf {kind : StructKind} {properties : List (Property Node)}
    (each : ∀ property ∈ properties, property.node.WellFormed)
    (built : structOf kind properties = .ok node) : node.WellFormed := by
  obtain ⟨rfl, some_properties, distinct⟩ := structOf_eq_ok built
  refine .intro ⟨some_properties, distinct⟩ fun child member => ?_
  obtain ⟨property, among, rfl⟩ := List.mem_map.mp member
  exact each property among

theorem unionOf_eq_ok_iff {members : List Node} :
    unionOf members = .ok node ↔ 2 ≤ members.length ∧ node = .union members none := by
  unfold unionOf
  split
  next short => simp [Nat.not_le.mpr short]
  next several => simp [Nat.le_of_not_lt several, eq_comm]

theorem wellFormed_of_unionOf {members : List Node}
    (each : ∀ member ∈ members, member.WellFormed) (flat : ∀ inner, Node.union inner none ∉ members)
    (built : unionOf members = .ok node) : node.WellFormed := by
  obtain ⟨several, rfl⟩ := unionOf_eq_ok_iff.mp built
  exact .intro ⟨several, flat, fun _ absurd => nomatch absurd⟩ each

theorem wellFormed_of_discriminatedUnionOf {members : List Node} {discriminator : Discriminator}
    (each : ∀ member ∈ members, member.WellFormed) (flat : ∀ inner, Node.union inner none ∉ members)
    (separates : discriminator.Separates members)
    (built : discriminatedUnionOf members discriminator = .ok node) : node.WellFormed := by
  unfold discriminatedUnionOf at built
  split at built
  · cases built
  next several =>
    split at built
    · cases built
    · cases built
      refine .intro ⟨by omega, flat, ?_⟩ each
      rintro found ⟨⟩
      exact separates

/-- The kind that members share is the one found so far, and that of every member that shows one. -/
theorem eq_of_sharedKind {start : Option StructKind} {kind : StructKind} {members : List Node}
    (shared : sharedKind start members = .ok (some kind)) :
    (∀ found, start = some found → found = kind) ∧
      ∀ member ∈ members, ∀ found, member.structKind? = some found → found = kind := by
  induction members generalizing start with
  | nil =>
      cases shared
      exact ⟨fun found same => (Option.some.inj same).symm, fun _ nothing => nomatch nothing⟩
  | cons member rest ih =>
      unfold sharedKind at shared
      split at shared
      next own shown =>
        split at shared
        · cases shared
        next agrees =>
          obtain ⟨same, others⟩ := ih shared
          refine ⟨?_, ?_⟩
          · rintro found rfl
            rw [← same own rfl]
            simpa using agrees
          · rintro other (_ | ⟨_, later⟩) found shown'
            · exact same found (shown.symm.trans shown')
            · exact others other later found shown'
      next hidden =>
        split at shared
        · obtain ⟨same, others⟩ := ih shared
          refine ⟨same, ?_⟩
          rintro other (_ | ⟨_, later⟩) found shown
          · cases hidden.symm.trans shown
          · exact others other later found shown
        · cases shared

theorem wellFormed_of_intersectionOf {members : List Node}
    (each : ∀ member ∈ members, member.WellFormed)
    (built : intersectionOf members = .ok node) : node.WellFormed := by
  unfold intersectionOf at built
  split at built
  · cases built
  next several =>
    split at built
    · cases built
    · cases built
    next kind shared =>
      cases built
      exact .intro ⟨by omega, (eq_of_sharedKind shared).2⟩ each

theorem isCastable_of_canCast {strategy : CastingStrategy}
    (accepted : canCast strategy inner = true) : inner.IsCastable strategy := by
  unfold canCast at accepted
  unfold IsCastable
  cases root : inner.unwrapped with
  | ref key => exact .inl ⟨key, rfl⟩
  | list item =>
      rw [root] at accepted
      cases strategy with
      | collection => exact .inr ⟨item, rfl⟩
      | constructor | assignProperties => cases accepted
  | struct kind properties =>
      rw [root] at accepted
      cases strategy with
      | collection => cases accepted
      | constructor | assignProperties => exact .inr ⟨kind, properties, rfl⟩
  | _ =>
      rw [root] at accepted
      cases strategy <;> cases accepted

theorem wellFormed_of_castTo {target : String} {strategy : CastingStrategy}
    (wellFormed : inner.WellFormed) (built : castTo inner target strategy = .ok node) :
    node.WellFormed := by
  unfold castTo at built
  split at built
  next accepted =>
    cases built
    exact .intro (isCastable_of_canCast accepted) fun _ member =>
      List.mem_singleton.mp member ▸ wellFormed
  · cases built

/-! ## Selections -/

/-- What is selected from a struct stays one: under labels the root is a struct before and after,
and under a cast it was one before. -/
theorem unwrapped_of_selectProperties {keys : List String} {keep : Bool} {selected : Node}
    (success : inner.selectProperties keys keep = .ok selected) :
    (∃ kind properties properties', inner.unwrapped = .struct kind properties ∧
        selected.unwrapped = .struct kind properties') ∨
      ∃ below target strategy, inner.unwrapped = .cast below target strategy := by
  induction inner using induction_on_children generalizing selected with
  | step inner ih =>
      cases inner with
      | named below name =>
          obtain ⟨found, inside, rfl⟩ := Except.map_eq_ok_iff.mp success
          have roots := ih below (List.mem_singleton.mpr rfl) inside
          exact roots
      | cast below target strategy => exact .inr ⟨below, target, strategy, rfl⟩
      | struct kind properties =>
          obtain ⟨rfl, _⟩ := structOf_eq_ok success
          exact .inl ⟨kind, properties, _, rfl, rfl⟩
      | _ => cases success

/-- A selection from what an instance is built from can be built from, too. -/
theorem IsCastable.selectProperties {strategy : CastingStrategy} {keys : List String}
    {keep : Bool} {selected : Node} (castable : inner.IsCastable strategy)
    (success : inner.selectProperties keys keep = .ok selected) :
    selected.IsCastable strategy := by
  unfold IsCastable at castable ⊢
  rcases unwrapped_of_selectProperties success with
    ⟨kind, properties, properties', before, after⟩ | ⟨below, target, strategy', before⟩
  · rw [before] at castable
    rw [after]
    cases strategy <;> simp at castable ⊢
  · rw [before] at castable
    cases strategy <;> simp at castable

theorem wellFormed_of_selectProperties {keys : List String} {keep : Bool} {selected : Node}
    (wellFormed : inner.WellFormed) (success : inner.selectProperties keys keep = .ok selected) :
    selected.WellFormed := by
  induction inner using induction_on_children generalizing selected with
  | step inner ih =>
      cases inner with
      | named below name =>
          obtain ⟨found, inside, rfl⟩ := Except.map_eq_ok_iff.mp success
          have part := wellFormed.of_mem_children (List.mem_singleton.mpr rfl)
          exact wellFormed_named (ih below (List.mem_singleton.mpr rfl) part inside) name
      | cast below target strategy =>
          obtain ⟨found, inside, rfl⟩ := Except.map_eq_ok_iff.mp success
          have part := wellFormed.of_mem_children (List.mem_singleton.mpr rfl)
          have after := ih below (List.mem_singleton.mpr rfl) part inside
          have castable : below.IsCastable strategy := wellFormed.here
          exact .intro (castable.selectProperties inside) fun _ member =>
            List.mem_singleton.mp member ▸ after
      | struct kind properties =>
          refine wellFormed_of_structOf (fun property member => ?_) success
          have among := (List.mem_filter.mp member).1
          exact wellFormed.of_mem_children (List.mem_map_of_mem (f := Property.node) among)
      | _ => cases success

end Node

/-! ## Inferred discriminators -/

namespace Discriminator

/-- The arms that are found have keys of their own and stand for the structs in order. -/
theorem perm_of_armsOf? {field : String} {start : Nat} {arms result : List (String × Nat)}
    {structs : List (List (Property Node))}
    (success : armsOf? field start arms structs = some result)
    (distinct : (arms.map Prod.fst).Nodup) :
    (result.map Prod.fst).Nodup ∧
      (result.map Prod.snd).Perm (arms.map Prod.snd ++ List.range' start structs.length) := by
  induction structs generalizing start arms with
  | nil =>
      obtain rfl := Option.some.inj success
      simpa using distinct
  | cons properties rest ih =>
      obtain ⟨key, _, success⟩ := Option.bind_eq_some_iff.mp success
      split at success
      · cases success
      next new =>
      have absent : Dict.contains arms key = false := by simpa using new
      have added := Dict.insert_perm_of_not_contains start absent
      have fresh : key ∉ arms.map Prod.fst := by
        rw [← Dict.get?_eq_none_iff, ← Option.not_isSome_iff_eq_none, ← Dict.contains_eq_isSome]
        exact new
      have distinct' : ((Dict.insert arms key start).map Prod.fst).Nodup :=
        (added.map Prod.fst).nodup_iff.mpr (List.nodup_cons.mpr ⟨fresh, distinct⟩)
      obtain ⟨keys, places⟩ := ih success distinct'
      refine ⟨keys, places.trans ?_⟩
      rw [List.length_cons, List.range'_succ]
      exact ((added.map Prod.snd).append_right _).trans List.perm_middle.symm

variable {members : List Node} {discriminator : Discriminator}

theorem kind_of_infer? (inferred : infer? members = some discriminator) :
    ∃ kind, ∀ member ∈ members, ∃ properties, member.struct? = some (kind, properties) := by
  obtain ⟨kind, structs, related, _⟩ := structs_of_infer? inferred
  refine ⟨kind, fun member among => ?_⟩
  obtain ⟨properties, _, root⟩ := exists_mem_left_of_forall₂ related.flip among
  exact ⟨properties, root⟩

/-- A discriminator that is inferred for some members tells them apart. -/
theorem separates_of_infer? (inferred : infer? members = some discriminator) :
    discriminator.Separates members := by
  obtain ⟨kind, structs, related, success⟩ := structs_of_infer? inferred
  obtain ⟨keys, places⟩ := perm_of_armsOf? success List.nodup_nil
  refine ⟨keys, ?_, fun key arm among => ?_, kind_of_infer? inferred⟩
  · rw [← related.length_eq, List.map_nil, List.nil_append,
      ← List.range_eq_range'] at places
    exact places
  · exact (get?_arms_iff inferred).mp (Dict.get?_of_mem keys among)

end Discriminator

end Schemata
