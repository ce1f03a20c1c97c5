import Schemata.Proofs.Codec.Congruence
import Schemata.Proofs.Codec.RoundTrip

/-!
# Coercion only widens

A codec that coerces primitives takes whatever one takes that does not, and to the same value, as
long as every union goes by a discriminator.  The members of any other union are tried in order, and
a member that takes the data only by coercion may stand ahead of the one that takes it as it is.
-/

namespace Schemata

open List (Forall₂)

namespace Walk

variable {α β : Type} {reads reads' : Node → β → α → Prop} {members : Dict β} {values : Dict α}

theorem Collected.imp {properties : List (Property Node)}
    (collected : Collected reads members properties values)
    (each : ∀ property ∈ properties, ∀ member value, reads property.node member value →
      reads' property.node member value) : Collected reads' members properties values := by
  induction collected with
  | nil => exact .nil
  | present found read _ ih =>
      obtain ⟨here, later⟩ := List.forall_mem_cons.mp each
      exact .present found (here _ _ read) (ih later)
  | missing absent optional _ ih =>
      exact .missing absent optional (ih (List.forall_mem_cons.mp each).2)

end Walk

/-- The root of a node is no reference, and no union without a discriminator. -/
def Node.IsDispatched : Node → Prop
  | .union _ none => False
  | .ref _ => False
  | _ => True

namespace Codec

open Walk

theorem Gathered.imp {α : Type} {gives gives' : Node → Dict α → Prop} {merged total : Dict α}
    {members : List Node} (gathered : Gathered gives merged members total)
    (each : ∀ member ∈ members, ∀ entries, gives member entries → gives' member entries) :
    Gathered gives' merged members total := by
  induction gathered with
  | nil => exact .nil
  | cons given _ ih =>
      obtain ⟨here, later⟩ := List.forall_mem_cons.mp each
      exact .cons (here _ given) (ih later)

/-- The wide codec refers to what the narrow one refers to, and coerces primitives if that one
does. -/
structure Wider (narrow wide : Codec) : Prop where
  types : narrow.types = wide.types
  nodes : narrow.nodes = wide.nodes
  coerces : narrow.options.coercePrimitives = true → wide.options.coercePrimitives = true

theorem Wider.refl (codec : Codec) : Wider codec codec :=
  ⟨rfl, rfl, id⟩

variable {narrow wide : Codec} {levels more : Nat} {node : Node} {wire : Json} {value : Value}

namespace Wider

variable (wider : Wider narrow wide)

include wider

theorem describe_eq (node : Node) : narrow.describe node = wide.describe node := by
  rw [describe, describe, wider.nodes]

theorem primitive?_of_narrow {kind : BuiltIn} (taken : narrow.primitive? kind wire = some value) :
    wide.primitive? kind wire = some value := by
  unfold primitive? at taken ⊢
  cases own : ownPrimitive? kind wire with
  | some found => simpa [own] using taken
  | none =>
      rw [own] at taken
      dsimp only at taken ⊢
      split at taken
      next coerces => rwa [if_pos (wider.coerces coerces)]
      next => cases taken

/-- A literal that stands for data of its own kind does so in either codec, and stands for data of
another kind only by coercion. -/
theorem isLiteral_of_narrow {literal : Literal} (stands : narrow.isLiteral literal wire = true) :
    wide.isLiteral literal wire = true := by
  have coerced {test : Bool} (both : (narrow.options.coercePrimitives && test) = true) :
      (wide.options.coercePrimitives && test) = true := by
    obtain ⟨coerces, passes⟩ := Bool.and_eq_true_iff.mp both
    rw [wider.coerces coerces, passes]
    rfl
  cases literal with
  | enumCase enumeration case => cases wire <;> exact stands
  | bool | int | float | string =>
      cases wire <;> first
        | exact stands
        | exact coerced stands

/-- A node takes with the wide codec what it takes with the narrow one, if its children do. -/
theorem decodes_of_children (dispatched : node.IsDispatched)
    (inside : ∀ child ∈ node.children, ∀ wire value, narrow.Decodes levels child wire value →
      wide.Decodes more child wire value)
    (decoded : narrow.Decodes (levels + 1) node wire value) :
    wide.Decodes (more + 1) node wire value := by
  cases node with
  | builtIn kind =>
      have taken := decodes_builtIn_iff.mp decoded
      exact decodes_builtIn_iff.mpr (wider.primitive?_of_narrow taken)
  | literal literal =>
      obtain ⟨stands, same⟩ := decodes_literal_iff.mp decoded
      exact decodes_literal_iff.mpr ⟨wider.isLiteral_of_narrow stands, same⟩
  | enumeration name =>
      rw [decodes_enumeration_iff, ← wider.types]
      exact decodes_enumeration_iff.mp decoded
  | dateTime className format =>
      exact decodes_dateTime_iff.mpr (decodes_dateTime_iff.mp decoded)
  | list item =>
      obtain ⟨items, values, rfl, rfl, each⟩ := decodes_list_iff.mp decoded
      exact decodes_list_iff.mpr
        ⟨items, values, rfl, rfl, each.imp (inside item (List.mem_singleton_self _))⟩
  | record item =>
      obtain ⟨members, entries, rfl, rfl, each⟩ := decodes_record_iff.mp decoded
      refine decodes_record_iff.mpr
        ⟨members, entries, rfl, rfl, each.imp fun member entry pair => ?_⟩
      exact ⟨pair.1, inside item (List.mem_singleton_self _) _ _ pair.2⟩
  | tuple nodes =>
      obtain ⟨items, values, rfl, rfl, lengths, each⟩ := decodes_tuple_iff.mp decoded
      refine decodes_tuple_iff.mpr ⟨items, values, rfl, rfl, lengths, ?_⟩
      have among (pair : Node × Json) (present : pair ∈ nodes.zip items) : pair.1 ∈ nodes :=
        (List.of_mem_zip present).1
      refine ((List.forall₂_and_left _ _).mpr ⟨among, each⟩).imp fun pair value found => ?_
      exact inside pair.1 found.1 _ _ found.2
  | struct kind properties =>
      obtain ⟨members, entries, rfl, rfl, collected⟩ := decodes_struct_iff.mp decoded
      refine decodes_struct_iff.mpr
        ⟨members, entries, rfl, rfl, collected.imp fun property among => ?_⟩
      have present := mem_sortedProperties.mp (List.mem_of_mem_filter among)
      exact inside property.node (List.mem_map_of_mem present)
  | union members discriminator =>
      cases discriminator with
      | none => exact dispatched.elim
      | some discriminator =>
          obtain ⟨entries, tag, arm, member, rfl, found, selected, present, taken⟩ :=
            decodes_discriminated_iff.mp decoded
          exact decodes_discriminated_iff.mpr ⟨entries, tag, arm, member, rfl, found, selected,
            present, inside member (List.mem_of_getElem? present) _ _ taken⟩
  | intersection members kind =>
      obtain ⟨fields, entries, rfl, rfl, gathered⟩ := decodes_intersection_iff.mp decoded
      refine decodes_intersection_iff.mpr ⟨fields, entries, rfl, rfl, gathered.imp ?_⟩
      rintro member among given ⟨found, taken, shown⟩
      refine ⟨found, inside member among _ _ taken, ?_⟩
      rwa [← entriesOf_congr wider.types]
  | constrained inner validators =>
      obtain ⟨taken, passes⟩ := decodes_constrained_iff.mp decoded
      exact decodes_constrained_iff.mpr
        ⟨inside inner (List.mem_singleton_self _) _ _ taken, passes⟩
  | cast inner target strategy =>
      obtain ⟨found, taken, built⟩ := decodes_cast_iff.mp decoded
      refine decodes_cast_iff.mpr
        ⟨found, inside inner (List.mem_singleton_self _) _ _ taken, ?_⟩
      rwa [← build_congr wider.types (wider.describe_eq inner)]
  | branded inner tag =>
      have taken := decodes_branded_iff.mp decoded
      exact decodes_branded_iff.mpr (inside inner (List.mem_singleton_self _) _ _ taken)
  | named inner name =>
      have taken := decodes_named_iff.mp decoded
      exact decodes_named_iff.mpr (inside inner (List.mem_singleton_self _) _ _ taken)
  | ref key => exact dispatched.elim

/-- What a node takes within some levels it takes with a wider codec within as many or more. -/
theorem decodes (dispatched : node.Everywhere Node.IsDispatched) (deeper : levels ≤ more)
    (decoded : narrow.Decodes levels node wire value) : wide.Decodes more node wire value := by
  induction levels generalizing more node wire value with
  | zero => exact absurd decoded not_decodes_zero
  | succ levels ih =>
      obtain ⟨more, rfl⟩ := Nat.exists_eq_add_one.mpr (Nat.lt_of_lt_of_le levels.succ_pos deeper)
      refine wider.decodes_of_children dispatched.here (fun child among wire value taken => ?_)
        decoded
      exact ih (dispatched.of_mem_children among) (Nat.le_of_succ_le_succ deeper) taken

end Wider

/-- Data that a node takes without coercion it takes with coercion to the same value. -/
theorem decode_coercing_of_decode (types : TypeRegistry) (nodes : Option NodeRegistry)
    (maxDepth : Nat) (dispatched : node.Everywhere Node.IsDispatched)
    (decoded : ({ types, nodes, options := { coercePrimitives := false, maxDepth } } : Codec).decode
      node wire = .ok value) :
    ({ types, nodes, options := { coercePrimitives := true, maxDepth } } : Codec).decode
      node wire = .ok value := by
  have wider : Wider { types, nodes, options := { coercePrimitives := false, maxDepth } }
      { types, nodes, options := { coercePrimitives := true, maxDepth } } :=
    ⟨rfl, rfl, fun _ => rfl⟩
  exact decode_eq_ok_iff.mpr (wider.decodes dispatched (Nat.le_refl _)
    (decode_eq_ok_iff.mp decoded))

theorem decode_coercing_of_labelled :
    (Node.union labelled (some labels)).Everywhere Node.IsDispatched ∧
      ({ types := {} } : Codec).decode (.union labelled (some labels))
          (.object [("type", .string "b")]) = .ok (.map [("type", .string "b")]) ∧
        ({ types := {}, options := { coercePrimitives := true } } : Codec).decode
          (.union labelled (some labels)) (.object [("type", .string "b")]) =
            .ok (.map [("type", .string "b")]) := by
  have pinned (field : String) (literal : Literal) :
      (Node.pinning field literal).Everywhere Node.IsDispatched := by
    refine .intro trivial fun child inside => ?_
    obtain rfl := List.mem_singleton.mp inside
    exact .leaf trivial rfl
  have dispatched : (Node.union labelled (some labels)).Everywhere Node.IsDispatched := by
    refine .intro trivial fun child inside => ?_
    rcases List.mem_pair.mp inside with rfl | rfl
    · exact pinned "type" (.string "a")
    · exact pinned "type" (.string "b")
  have decoded : ({ types := {} } : Codec).decode (.union labelled (some labels))
      (.object [("type", .string "b")]) = .ok (.map [("type", .string "b")]) :=
    decode_eq_ok_iff.mpr (decodes_discriminated_iff.mpr
      ⟨_, .string "b", 1, _, rfl, rfl, by decide, rfl, decodes_pinning rfl rfl⟩)
  exact ⟨dispatched, decoded, decode_coercing_of_decode {} none 128 dispatched decoded⟩

-- Without a discriminator, a member that is tried earlier may take the data by coercion.
example : ({ types := {} } : Codec).decode (.union [.builtIn .int, .builtIn .string] none)
      (.string "1") = .ok (.string "1") ∧
    ({ types := {}, options := { coercePrimitives := true } } : Codec).decode
      (.union [.builtIn .int, .builtIn .string] none) (.string "1") = .ok (.int 1) :=
  ⟨rfl, rfl⟩

end Codec

end Schemata
