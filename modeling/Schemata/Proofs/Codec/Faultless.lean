import Schemata.Proofs.Codec.Scalars
import Schemata.Proofs.Codec.Success

/-!
# Walks without faults of the setup

A walk ends in a fault only where a name or a reference is unknown.  A node without references and
casts, whose enums are registered, never leads to one while data is decoded.
-/

namespace Schemata

open List (Forall₂)

namespace Walk

variable {α β : Type}

/-- What a walk comes to is no fault of the setup. -/
def Faultless (outcome : Except Stop α) : Prop :=
  ∀ fault, outcome ≠ .error (.defect fault)

theorem faultless_ok (value : α) : Faultless (.ok value) :=
  fun _ same => nomatch same

theorem faultless_invalid : Faultless (.error .invalid : Except Stop α) :=
  fun _ same => nomatch same

theorem faultless_bind {first : Except Stop α} {next : α → Except Stop β}
    (before : Faultless first) (after : ∀ value, first = .ok value → Faultless (next value)) :
    Faultless (first >>= next) := by
  cases first with
  | ok value => exact after value rfl
  | error stop =>
      rintro fault ⟨⟩
      exact before fault rfl

theorem faultless_map (change : α → β) {first : Except Stop α} (before : Faultless first) :
    Faultless (change <$> first) := by
  cases first with
  | ok value => exact faultless_ok _
  | error stop =>
      rintro fault ⟨⟩
      exact before fault rfl

theorem faultless_mapM {change : α → Except Stop β} {items : List α}
    (each : ∀ item ∈ items, Faultless (change item)) : Faultless (items.mapM change) := by
  induction items with
  | nil => exact faultless_ok _
  | cons item rest ih =>
      rw [List.mapM_cons]
      refine faultless_bind (each item List.mem_cons_self) fun value _ => ?_
      refine faultless_bind (ih fun other member => each other (List.mem_cons_of_mem _ member)) ?_
      exact fun values _ => faultless_ok _

theorem faultless_firstOf {walk : β → Walk α} {choices : List β}
    (steady : ∀ choice ∈ choices, Steady (walk choice))
    (each : ∀ choice ∈ choices, Faultless (walk choice).verdict) :
    Faultless (firstOf walk choices).verdict := by
  induction choices with
  | nil => exact faultless_ok _
  | cons choice rest ih =>
      have later := ih (fun other member => steady other (List.mem_cons_of_mem _ member))
        fun other member => each other (List.mem_cons_of_mem _ member)
      rw [verdict_firstOf_cons steady]
      cases here : (walk choice).verdict with
      | ok value => exact faultless_ok _
      | error stop =>
          cases stop with
          | absent | invalid => exact later
          | defect fault => exact absurd here (each choice List.mem_cons_self fault)

theorem faultless_properties {walk : Node → β → Walk α} {members : Dict β}
    {properties : List (Property Node)} (steady : ∀ node member, Steady (walk node member))
    (each : ∀ property ∈ properties, ∀ member, Dict.get? members property.name = some member →
      Faultless (walk property.node member).verdict) :
    Faultless (Walk.properties walk members properties).verdict := by
  induction properties with
  | nil => exact faultless_ok _
  | cons property rest ih =>
      have later := ih fun other member => each other (List.mem_cons_of_mem _ member)
      rw [verdict_properties_cons steady]
      split
      next member found =>
        refine faultless_bind (each property List.mem_cons_self member found) fun value _ => ?_
        exact faultless_bind later fun values _ => faultless_ok _
      · split
        · exact later
        · exact faultless_invalid

theorem faultless_verdict_map {walk : Walk α} (steady : Steady walk) (change : α → β)
    (before : Faultless walk.verdict) : Faultless (do return change (← walk)).verdict := by
  rw [steady.verdict_map]
  exact faultless_map change before

theorem faultless_items {walk : β → Walk α} {items : List β} (index : Nat)
    (steady : ∀ item, Steady (walk item))
    (each : ∀ item ∈ items, Faultless (walk item).verdict) :
    Faultless (Walk.items walk index items).verdict := by
  rw [(comesTo_items steady index items).verdict_eq]
  exact faultless_mapM each

theorem faultless_entries {walk : β → Walk α} {members : List (String × β)}
    (steady : ∀ item, Steady (walk item))
    (each : ∀ member ∈ members, Faultless (walk member.2).verdict) :
    Faultless (Walk.entries walk members).verdict := by
  rw [(comesTo_entries steady members).verdict_eq]
  exact faultless_mapM fun member among =>
    faultless_bind (each member among) fun _ _ => faultless_ok _

theorem faultless_elements {walk : Node → β → Walk α} {nodes : List Node} {items : List β}
    (steady : ∀ node item, Steady (walk node item))
    (each : ∀ node ∈ nodes, ∀ item ∈ items, Faultless (walk node item).verdict) :
    Faultless (Walk.elements walk nodes items).verdict := by
  rw [(comesTo_elements steady nodes items).verdict_eq]
  split
  · exact faultless_mapM fun _ among =>
      each _ (List.of_mem_zip among).1 _ (List.of_mem_zip among).2
  · exact faultless_invalid

/-- A walk that is not faulty comes to a value or finds the data invalid. -/
theorem Faultless.ok_or_invalid {walk : Walk α} (steady : Steady walk)
    (faultless : Faultless walk.verdict) :
    (∃ value, walk.verdict = .ok value) ∨ walk.verdict = .error .invalid := by
  cases outcome : walk.verdict with
  | ok value => exact Or.inl ⟨value, rfl⟩
  | error stop =>
      cases stop with
      | absent => exact absurd outcome steady.ne_absent
      | invalid => exact Or.inr rfl
      | defect fault => exact absurd outcome (faultless fault)

/-- What a whole walk gives that is not faulty is a value, or what is wrong with the data. -/
theorem Faultless.conclude {walk : Walk α} (steady : Steady walk)
    (faultless : Faultless walk.verdict) :
    (∃ value, Walk.conclude walk = .ok value) ∨
      ∃ failure, Walk.conclude walk = .error (.invalid failure) := by
  obtain ⟨value, _, result⟩ | ⟨failure, _, result⟩ | ⟨fault, outcome, _⟩ := conclude_eq steady
  · exact Or.inl ⟨value, result⟩
  · exact Or.inr ⟨failure, result⟩
  · exact absurd outcome (faultless fault)

/-- Of choices tried in order, all find the data invalid or a first one comes to a value. -/
theorem invalid_or_first {walk : β → Walk α} {choices : List β}
    (steady : ∀ choice ∈ choices, Steady (walk choice))
    (each : ∀ choice ∈ choices, Faultless (walk choice).verdict) :
    (∀ choice ∈ choices, (walk choice).verdict = .error .invalid) ∨
      ∃ before choice after value, choices = before ++ choice :: after ∧
        (∀ other ∈ before, (walk other).verdict = .error .invalid) ∧
          (walk choice).verdict = .ok value := by
  induction choices with
  | nil => exact Or.inl fun _ nothing => nomatch nothing
  | cons first rest ih =>
      obtain ⟨here, later⟩ := List.forall_mem_cons.mp each
      rcases here.ok_or_invalid (steady first List.mem_cons_self) with ⟨value, found⟩ | invalid
      · exact Or.inr ⟨[], first, rest, value, rfl, by simp, found⟩
      · rcases ih (fun other among => steady other (List.mem_cons_of_mem _ among)) later with
          all | ⟨before, choice, after, value, rfl, ahead, found⟩
        · exact Or.inl (List.forall_mem_cons.mpr ⟨invalid, all⟩)
        · exact Or.inr ⟨first :: before, choice, after, value, rfl,
            List.forall_mem_cons.mpr ⟨invalid, ahead⟩, found⟩

/-- Every value that is collected was read along a property. -/
theorem Collected.exists_of_mem_values {reads : Node → β → α → Prop} {members : Dict β}
    {properties : List (Property Node)} {values : Dict α}
    (collected : Collected reads members properties values) {value : α}
    (among : value ∈ values.map Prod.snd) :
    ∃ property ∈ properties, ∃ member, reads property.node member value := by
  induction collected with
  | nil => cases among
  | present found read later ih =>
      rcases List.mem_cons.mp among with rfl | there
      · exact ⟨_, List.mem_cons_self, _, read⟩
      · obtain ⟨property, inside, member, read⟩ := ih there
        exact ⟨property, List.mem_cons_of_mem _ inside, member, read⟩
  | missing absent optional later ih =>
      obtain ⟨property, inside, member, read⟩ := ih among
      exact ⟨property, List.mem_cons_of_mem _ inside, member, read⟩

end Walk

namespace Codec

open Walk

variable {codec : Codec} {levels : Nat}

theorem faultless_enumCases_bind {α : Type} {name : String} {next : List String → Walk α}
    (registered : (codec.types.enum? name).isSome = true)
    (after : ∀ cases, Faultless (next cases).verdict) :
    Faultless (codec.enumCases name >>= next).verdict := by
  rw [verdict_enumCases_bind]
  cases found : codec.types.enum? name with
  | none => simp [found] at registered
  | some cases => exact after cases

/-- What comes of trying choices is no fault, when trying them is none. -/
theorem faultless_first {α : Type} {tried : Except Stop (Option α)} (tries : Faultless tried) :
    Faultless (tried >>= first) := by
  refine faultless_bind tries fun found _ => ?_
  cases found with
  | some value => exact faultless_ok _
  | none => exact faultless_invalid

theorem faultless_checked {α : Type} {walk : Walk α} (steady : Steady walk)
    (before : Faultless walk.verdict) (valueOf : α → Value) (validators : List Validator) :
    Faultless (do
      let result ← walk
      Walk.validate (valueOf result) validators
      return result).verdict := by
  have later (result : α) := comesTo_checked (valueOf result) validators result
  rw [steady.verdict_bind fun result => (later result).steady]
  refine faultless_bind before fun result _ => ?_
  rw [(later result).verdict_eq]
  split
  · exact faultless_ok _
  · exact faultless_invalid

/-! ## Decoding -/

/-- The node refers to nothing that could be unknown, its children apart. -/
def Settled (types : TypeRegistry) : Node → Prop
  | .enumeration name => (types.enum? name).isSome = true
  | .cast .. | .ref _ => False
  | _ => True

/-- The node is settled, and a leaf for moments has one of the formats of its class. -/
def SettledIn (types : TypeRegistry) (formats : String → DateTimeFormat → Prop) : Node → Prop
  | .dateTime className format => formats className format
  | node => Settled types node

theorem settledIn_of_settled {types : TypeRegistry} {node : Node} (settled : Settled types node) :
    SettledIn types (fun _ _ => True) node := by
  cases node with
  | dateTime => trivial
  | _ => exact settled

theorem settled_of_settledIn {types : TypeRegistry} {formats : String → DateTimeFormat → Prop}
    {node : Node} (settled : SettledIn types formats node) : Settled types node := by
  cases node with
  | dateTime => trivial
  | _ => exact settled

/-! ### Decoded values -/

variable {formats : String → DateTimeFormat → Prop}

/-- What the members of an intersection give in turn is all there is in the end, besides what there
was at the start. -/
theorem Gathered.exists_of_mem_values {α : Type} {gives : Node → Dict α → Prop}
    {merged total : Dict α} {members : List Node}
    (gathered : Gathered gives merged members total) {value : α}
    (among : value ∈ total.map Prod.snd) :
    value ∈ merged.map Prod.snd ∨
      ∃ member ∈ members, ∃ entries, gives member entries ∧ value ∈ entries.map Prod.snd := by
  induction gathered with
  | nil => exact .inl among
  | cons given later ih =>
      rcases ih among with earlier | ⟨member, inside, found⟩
      · obtain ⟨entry, there, rfl⟩ := List.mem_map.mp earlier
        rcases Dict.mem_of_mem_merge there with new | old
        · exact .inr ⟨_, List.mem_cons_self, _, given, List.mem_map_of_mem new⟩
        · exact .inl (List.mem_map_of_mem old)
      · exact .inr ⟨member, List.mem_cons_of_mem _ inside, found⟩

/-- A value that is no instance has the entries that it shows. -/
theorem entriesOf_eq {value : Value} (plain : value.isInstance = false) :
    codec.entriesOf value = pure value.properties? := by
  cases value with
  | host className fields => cases plain
  | _ => rfl

/-- Along a settled node, data decodes to a value all of whose parts have been read. -/
theorem everywhere_isRead_of_decodes {node : Node}
    (settled : node.Everywhere (SettledIn codec.types formats)) {wire : Json} {value : Value}
    (decoded : codec.Decodes levels node wire value) : value.Everywhere (Value.IsRead formats) := by
  induction levels generalizing node wire value with
  | zero => exact absurd decoded not_decodes_zero
  | succ levels ih =>
      have inside {child : Node} (member : child ∈ node.children) {wire : Json} {part : Value}
          (decoded : codec.Decodes levels child wire part) :
          part.Everywhere (Value.IsRead formats) := ih (settled.of_mem_children member) decoded
      cases node with
      | builtIn kind => exact everywhere_isRead_of_primitive? (decodes_builtIn_iff.mp decoded)
      | literal literal =>
          obtain ⟨stands, rfl⟩ := decodes_literal_iff.mp decoded
          cases literal with
          | float value => exact .leaf (isFinite_of_isLiteral stands) rfl
          | _ => exact .leaf trivial rfl
      | enumeration name =>
          obtain ⟨_, _, _, _, _, rfl⟩ := decodes_enumeration_iff.mp decoded
          exact .leaf trivial rfl
      | dateTime className format =>
          obtain ⟨text, moment, _, read, rfl⟩ := decodes_dateTime_iff.mp decoded
          exact .leaf ⟨format, text, settled.here, read⟩ rfl
      | list item =>
          obtain ⟨items, values, _, rfl, each⟩ := decodes_list_iff.mp decoded
          refine .intro trivial fun part member => ?_
          obtain ⟨data, _, taken⟩ := exists_mem_left_of_forall₂ each member
          exact inside (List.mem_singleton_self _) taken
      | record item =>
          obtain ⟨members, entries, _, rfl, each⟩ := decodes_record_iff.mp decoded
          refine .intro trivial fun part member => ?_
          obtain ⟨entry, among, rfl⟩ := List.mem_map.mp member
          obtain ⟨data, _, _, taken⟩ := exists_mem_left_of_forall₂ each among
          exact inside (List.mem_singleton_self _) taken
      | tuple nodes =>
          obtain ⟨items, values, _, rfl, _, each⟩ := decodes_tuple_iff.mp decoded
          refine .intro trivial fun part member => ?_
          obtain ⟨pair, among, taken⟩ := exists_mem_left_of_forall₂ each member
          exact inside (List.of_mem_zip among).1 taken
      | struct kind properties =>
          obtain ⟨members, entries, _, rfl, collected⟩ := decodes_struct_iff.mp decoded
          refine .intro (by cases kind <;> trivial) fun part member => ?_
          obtain ⟨property, among, data, taken⟩ :=
            collected.exists_of_mem_values (Value.mem_parts_structValue.mp member)
          refine inside (List.mem_map_of_mem ?_) taken
          exact mem_sortedProperties.mp (List.mem_of_mem_filter among)
      | union members discriminator =>
          cases discriminator with
          | none =>
              obtain ⟨before, member, after, rfl, _, taken⟩ := decodes_union_iff.mp decoded
              exact inside (List.mem_append_right _ List.mem_cons_self) taken
          | some discriminator =>
              obtain ⟨_, _, _, _, _, _, _, present, taken⟩ := decodes_discriminated_iff.mp decoded
              exact inside (List.mem_of_getElem? present) taken
      | intersection members kind =>
          obtain ⟨_, entries, _, rfl, gathered⟩ := decodes_intersection_iff.mp decoded
          refine .intro (by cases kind <;> trivial) fun part member => ?_
          rcases gathered.exists_of_mem_values (Value.mem_parts_structValue.mp member) with
            nothing | ⟨node, among, own, ⟨found, taken, shown⟩, there⟩
          · cases nothing
          · have read := inside among taken
            rw [entriesOf_eq (Value.isInstance_of_isRead read.here)] at shown
            refine read.of_mem_parts ?_
            exact (Value.mem_parts_of_properties? (Except.ok.inj shown)).mpr there
      | constrained inner validators =>
          exact inside (List.mem_singleton_self _) (decodes_constrained_iff.mp decoded).1
      | cast inner target strategy => exact settled.here.elim
      | branded inner tag =>
          exact inside (List.mem_singleton_self _) (decodes_branded_iff.mp decoded)
      | named inner name =>
          exact inside (List.mem_singleton_self _) (decodes_named_iff.mp decoded)
      | ref key => exact settled.here.elim

/-! ### Decoding without faults -/

theorem faultless_decodeMembers {members : List Node} {wire : Json}
    (settled : ∀ member ∈ members, member.Everywhere (Settled codec.types))
    (each : ∀ member ∈ members, Faultless (codec.decodeWithin levels member wire).verdict)
    (merged : Dict Value) :
    Faultless (codec.decodeMembers (codec.decodeWithin levels) wire merged members).verdict := by
  have steady := steady_decodeWithin codec levels
  induction members generalizing merged with
  | nil => exact faultless_ok _
  | cons member rest ih =>
      have later := ih (fun other among => settled other (List.mem_cons_of_mem _ among))
        fun other among => each other (List.mem_cons_of_mem _ among)
      have regular := regular_decodeWithin codec levels
      rw [decodeMembers, (steady member wire).verdict_bind fun value =>
        (regular_entriesOf_bind value
          (fun fields => regular_decodeMembers regular wire _ rest) rfl rfl).steady]
      refine faultless_bind (each member List.mem_cons_self) fun value decoded => ?_
      have known := (settled member List.mem_cons_self).imp fun _ => settledIn_of_settled
      have read := (everywhere_isRead_of_decodes known decoded).here
      cases value with
      | host className fields => exact read.elim
      | map entries => exact later _
      | object entries => exact later _
      | _ => exact faultless_invalid

section

variable {wire : Json}

theorem faultless_decode_builtIn {kind : BuiltIn} :
    Faultless (codec.decodeWithin (levels + 1) (.builtIn kind) wire).verdict := by
  rw [decodeWithin_of_not_ref rfl, decodeShape]
  split
  · exact faultless_ok _
  · exact faultless_invalid

theorem faultless_decode_literal {literal : Literal} :
    Faultless (codec.decodeWithin (levels + 1) (.literal literal) wire).verdict := by
  rw [decodeWithin_of_not_ref rfl, decodeShape]
  split
  · exact faultless_ok _
  · exact faultless_invalid

theorem faultless_decode_enumeration {name : String}
    (registered : (codec.types.enum? name).isSome = true) :
    Faultless (codec.decodeWithin (levels + 1) (.enumeration name) wire).verdict := by
  rw [decodeWithin_of_not_ref rfl]
  cases wire with
  | string case =>
      refine faultless_enumCases_bind registered fun cases => ?_
      split
      · exact faultless_ok _
      · exact faultless_invalid
  | _ => exact faultless_invalid

theorem faultless_decode_dateTime {className : String} {format : DateTimeFormat} :
    Faultless (codec.decodeWithin (levels + 1) (.dateTime className format) wire).verdict := by
  rw [decodeWithin_of_not_ref rfl]
  cases wire with
  | string text =>
      simp only [decodeShape, decodeMoment]
      split
      · exact faultless_ok _
      · exact faultless_invalid
  | _ => exact faultless_invalid

theorem faultless_decode_list {item : Node}
    (inside : ∀ wire, Faultless (codec.decodeWithin levels item wire).verdict) :
    Faultless (codec.decodeWithin (levels + 1) (.list item) wire).verdict := by
  have steady := steady_decodeWithin codec levels item
  rw [decodeWithin_of_not_ref rfl]
  cases wire with
  | array items =>
      exact faultless_verdict_map (comesTo_items steady 0 items).steady _
        (faultless_items 0 steady fun wire _ => inside wire)
  | _ => exact faultless_invalid

theorem faultless_decode_record {item : Node}
    (inside : ∀ wire, Faultless (codec.decodeWithin levels item wire).verdict) :
    Faultless (codec.decodeWithin (levels + 1) (.record item) wire).verdict := by
  have steady := steady_decodeWithin codec levels item
  rw [decodeWithin_of_not_ref rfl]
  cases wire with
  | object members =>
      exact faultless_verdict_map (comesTo_entries steady members).steady _
        (faultless_entries steady fun member _ => inside member.2)
  | _ => exact faultless_invalid

theorem faultless_decode_tuple {nodes : List Node}
    (inside : ∀ node ∈ nodes, ∀ wire, Faultless (codec.decodeWithin levels node wire).verdict) :
    Faultless (codec.decodeWithin (levels + 1) (.tuple nodes) wire).verdict := by
  have steady := steady_decodeWithin codec levels
  rw [decodeWithin_of_not_ref rfl]
  cases wire with
  | array items =>
      exact faultless_verdict_map (comesTo_elements steady nodes items).steady _
        (faultless_elements steady fun node among wire _ => inside node among wire)
  | _ => exact faultless_invalid

theorem faultless_decode_struct {kind : StructKind} {properties : List (Property Node)}
    (inside : ∀ property ∈ properties, ∀ wire,
      Faultless (codec.decodeWithin levels property.node wire).verdict) :
    Faultless (codec.decodeWithin (levels + 1) (.struct kind properties) wire).verdict := by
  have steady := steady_decodeWithin codec levels
  rw [decodeWithin_of_not_ref rfl]
  cases wire with
  | object members =>
      refine faultless_verdict_map (steady_properties steady) _ ?_
      refine faultless_properties steady fun property among member _ => ?_
      exact inside property (mem_sortedProperties.mp (List.mem_of_mem_filter among)) member
  | _ => exact faultless_invalid

theorem faultless_decode_union {members : List Node}
    (inside : ∀ member ∈ members, Faultless (codec.decodeWithin levels member wire).verdict) :
    Faultless (codec.decodeWithin (levels + 1) (.union members none) wire).verdict := by
  have steady (member : Node) (_ : member ∈ members) :=
    steady_decodeWithin codec levels member wire
  rw [decodeWithin_of_not_ref rfl, decodeShape, verdict_decodeFirst steady]
  exact faultless_first (faultless_firstOf steady inside)

theorem faultless_decode_discriminated {members : List Node} {discriminator : Discriminator}
    (inside : ∀ member ∈ members, Faultless (codec.decodeWithin levels member wire).verdict) :
    Faultless
      (codec.decodeWithin (levels + 1) (.union members (some discriminator)) wire).verdict := by
  rw [decodeWithin_of_not_ref rfl]
  cases wire with
  | object entries =>
      simp only [decodeShape, decodeArm]
      split
      · exact faultless_invalid
      · split
        next member selected =>
          obtain ⟨arm, _, present⟩ := Option.bind_eq_some_iff.mp selected
          exact inside member (List.mem_of_getElem? present)
        · exact faultless_invalid
  | _ => exact faultless_invalid

theorem faultless_decode_intersection {members : List Node} {kind : StructKind}
    (settled : ∀ member ∈ members, member.Everywhere (Settled codec.types))
    (inside : ∀ member ∈ members, Faultless (codec.decodeWithin levels member wire).verdict) :
    Faultless (codec.decodeWithin (levels + 1) (.intersection members kind) wire).verdict := by
  rw [decodeWithin_of_not_ref rfl]
  cases wire with
  | object entries =>
      exact faultless_verdict_map (steady_decodeMembers levels _ _ members) _
        (faultless_decodeMembers settled inside _)
  | _ => exact faultless_invalid

theorem faultless_decode_constrained {inner : Node} {validators : List Validator}
    (inside : Faultless (codec.decodeWithin levels inner wire).verdict) :
    Faultless (codec.decodeWithin (levels + 1) (.constrained inner validators) wire).verdict := by
  rw [decodeWithin_of_not_ref rfl]
  exact faultless_checked (steady_decodeWithin codec levels inner wire) inside id validators

end

/-- Data of every kind comes to a value along a settled node, or is found invalid. -/
theorem faultless_decodeWithin {node : Node} (settled : node.Everywhere (Settled codec.types))
    (wire : Json) : Faultless (codec.decodeWithin levels node wire).verdict := by
  induction levels generalizing node wire with
  | zero => exact faultless_invalid
  | succ levels ih =>
      have inside (child : Node) (member : child ∈ node.children) (wire : Json) :
          Faultless (codec.decodeWithin levels child wire).verdict :=
        ih (settled.of_mem_children member) wire
      cases node with
      | builtIn kind => exact faultless_decode_builtIn
      | literal literal => exact faultless_decode_literal
      | enumeration name => exact faultless_decode_enumeration settled.here
      | dateTime className format => exact faultless_decode_dateTime
      | list item => exact faultless_decode_list (inside item (List.mem_singleton_self _))
      | record item => exact faultless_decode_record (inside item (List.mem_singleton_self _))
      | tuple nodes => exact faultless_decode_tuple inside
      | struct kind properties =>
          exact faultless_decode_struct fun property among =>
            inside property.node (List.mem_map_of_mem among)
      | union members discriminator =>
          cases discriminator with
          | none => exact faultless_decode_union fun member among => inside member among wire
          | some discriminator =>
              exact faultless_decode_discriminated fun member among => inside member among wire
      | intersection members kind =>
          exact faultless_decode_intersection (fun _ among => settled.of_mem_children among)
            fun member among => inside member among wire
      | constrained inner validators =>
          exact faultless_decode_constrained (inside inner (List.mem_singleton_self _) wire)
      | cast inner target strategy => exact settled.here.elim
      | branded inner tag | named inner name =>
          rw [decodeWithin_of_not_ref rfl]
          exact inside inner (List.mem_singleton_self _) wire
      | ref key => exact settled.here.elim

/-! ## Encoding -/

/-- The arm that is selected is one of the members. -/
theorem mem_of_armOf? {members : List Node} {discriminator : Discriminator} {value : Value}
    {member : Node} (selected : armOf? members discriminator value = some member) :
    member ∈ members := by
  unfold armOf? at selected
  obtain ⟨_, _, selected⟩ := Option.bind_eq_some_iff.mp selected
  obtain ⟨_, _, selected⟩ := Option.bind_eq_some_iff.mp selected
  obtain ⟨_, _, selected⟩ := Option.bind_eq_some_iff.mp selected
  obtain ⟨_, _, selected⟩ := Option.bind_eq_some_iff.mp selected
  exact List.mem_of_getElem? selected

/-- The node is settled and no intersection, which looks into instances while it is encoded. -/
def SettledBothWays (types : TypeRegistry) : Node → Prop
  | .intersection .. => False
  | node => Settled types node

theorem settled_of_bothWays {types : TypeRegistry} {node : Node}
    (settled : SettledBothWays types node) : Settled types node := by
  cases node with
  | intersection => exact settled.elim
  | _ => exact settled

theorem faultless_encodeMembers {members : List Node} {value : Value}
    (each : ∀ member ∈ members, Faultless (codec.encodeWithin levels member value).verdict)
    (merged : Dict Json) :
    Faultless (codec.encodeMembers (codec.encodeWithin levels) value merged members).verdict := by
  induction members generalizing merged with
  | nil => exact faultless_ok _
  | cons member rest ih =>
      have later := ih fun other among => each other (List.mem_cons_of_mem _ among)
      rw [encodeMembers, (steady_encodeWithin codec levels member value).verdict_bind]
      · refine faultless_bind (each member List.mem_cons_self) fun found _ => ?_
        cases found with
        | object entries => exact later _
        | _ => exact faultless_invalid
      · intro found
        cases found with
        | object entries => exact steady_encodeMembers levels value _ rest
        | _ => exact (regular_invalidType _ _).steady

section

variable {value : Value}

theorem faultless_encode_builtIn {kind : BuiltIn} :
    Faultless (codec.encodeWithin (levels + 1) (.builtIn kind) value).verdict := by
  rw [encodeWithin_of_not_ref rfl, encodeShape]
  split
  · exact faultless_ok _
  · exact faultless_invalid

theorem faultless_encode_literal {literal : Literal} :
    Faultless (codec.encodeWithin (levels + 1) (.literal literal) value).verdict := by
  rw [encodeWithin_of_not_ref rfl, encodeShape]
  split
  · exact faultless_ok _
  · exact faultless_invalid

theorem faultless_encode_enumeration {name : String}
    (registered : (codec.types.enum? name).isSome = true) :
    Faultless (codec.encodeWithin (levels + 1) (.enumeration name) value).verdict := by
  rw [encodeWithin_of_not_ref rfl]
  cases value with
  | enumCase enumeration case =>
      simp only [encodeShape, encodeCase]
      split
      · refine faultless_enumCases_bind registered fun cases => ?_
        split
        · exact faultless_ok _
        · exact faultless_invalid
      · exact faultless_invalid
  | _ => exact faultless_invalid

theorem faultless_encode_dateTime {className : String} {format : DateTimeFormat} :
    Faultless (codec.encodeWithin (levels + 1) (.dateTime className format) value).verdict := by
  rw [encodeWithin_of_not_ref rfl]
  cases value with
  | dateTime _ moment =>
      simp only [encodeShape, encodeMoment]
      split
      · exact faultless_ok _
      · exact faultless_invalid
  | _ => exact faultless_invalid

theorem faultless_encode_list {item : Node}
    (inside : ∀ part ∈ value.parts, Faultless (codec.encodeWithin levels item part).verdict) :
    Faultless (codec.encodeWithin (levels + 1) (.list item) value).verdict := by
  have steady := steady_encodeWithin codec levels item
  rw [encodeWithin_of_not_ref rfl]
  cases value with
  | list values =>
      exact faultless_verdict_map (comesTo_items steady 0 values).steady _
        (faultless_items 0 steady inside)
  | _ => exact faultless_invalid

theorem faultless_encode_record {item : Node}
    (inside : ∀ part ∈ value.parts, Faultless (codec.encodeWithin levels item part).verdict) :
    Faultless (codec.encodeWithin (levels + 1) (.record item) value).verdict := by
  have steady := steady_encodeWithin codec levels item
  rw [encodeWithin_of_not_ref rfl, encodeShape]
  cases shown : value.properties? with
  | some entries =>
      refine faultless_verdict_map (comesTo_entries steady entries).steady _ ?_
      refine faultless_entries steady fun entry among => inside entry.2 ?_
      exact (Value.mem_parts_of_properties? shown).mpr (List.mem_map_of_mem among)
  | none => exact faultless_invalid

theorem faultless_encode_tuple {nodes : List Node}
    (inside : ∀ node ∈ nodes, ∀ part ∈ value.parts,
      Faultless (codec.encodeWithin levels node part).verdict) :
    Faultless (codec.encodeWithin (levels + 1) (.tuple nodes) value).verdict := by
  have steady := steady_encodeWithin codec levels
  rw [encodeWithin_of_not_ref rfl]
  cases value with
  | list values =>
      exact faultless_verdict_map (comesTo_elements steady nodes values).steady _
        (faultless_elements steady inside)
  | _ => exact faultless_invalid

theorem faultless_encode_struct {kind : StructKind} {properties : List (Property Node)}
    (inside : ∀ property ∈ properties, ∀ part ∈ value.parts,
      Faultless (codec.encodeWithin levels property.node part).verdict) :
    Faultless (codec.encodeWithin (levels + 1) (.struct kind properties) value).verdict := by
  have steady := steady_encodeWithin codec levels
  rw [encodeWithin_of_not_ref rfl, encodeShape]
  cases shown : value.properties? with
  | some entries =>
      refine faultless_verdict_map (steady_properties steady) _ ?_
      refine faultless_properties steady fun property among part found => ?_
      refine inside property (mem_sortedProperties.mp (List.mem_of_mem_filter among)) part ?_
      refine (Value.mem_parts_of_properties? shown).mpr ?_
      exact List.mem_map_of_mem (f := Prod.snd) (Dict.mem_of_get?_eq_some found)
  | none => exact faultless_invalid

theorem faultless_encode_union {members : List Node} {discriminator : Option Discriminator}
    (inside : ∀ member ∈ members, Faultless (codec.encodeWithin levels member value).verdict) :
    Faultless (codec.encodeWithin (levels + 1) (.union members discriminator) value).verdict := by
  have steady (member : Node) (_ : member ∈ members) :=
    steady_encodeWithin codec levels member value
  rw [encodeWithin_of_not_ref rfl]
  simp only [encodeShape]
  split
  next member selected =>
    obtain ⟨tags, _, selected⟩ := Option.bind_eq_some_iff.mp selected
    exact inside member (mem_of_armOf? selected)
  · rw [verdict_encodeFirst steady]
    exact faultless_first (faultless_firstOf steady inside)

/-- An intersection gives a value that is no instance to its members as a struct. -/
theorem faultless_encode_intersection {members : List Node} {kind : StructKind}
    (plain : value.isInstance = false)
    (inside : ∀ member ∈ members, ∀ entries, value.properties? = some entries →
      Faultless (codec.encodeWithin levels member (kind.value entries)).verdict) :
    Faultless (codec.encodeWithin (levels + 1) (.intersection members kind) value).verdict := by
  rw [encodeWithin_of_not_ref rfl, encodeShape, entriesOf_eq plain, pure_bind]
  cases shown : value.properties? with
  | some entries =>
      exact faultless_verdict_map (steady_encodeMembers levels _ _ members) _
        (faultless_encodeMembers (fun member among => inside member among entries shown) _)
  | none => exact faultless_invalid

theorem faultless_encode_constrained {inner : Node} {validators : List Validator}
    (inside : Faultless (codec.encodeWithin levels inner value).verdict) :
    Faultless (codec.encodeWithin (levels + 1) (.constrained inner validators) value).verdict := by
  rw [encodeWithin_of_not_ref rfl]
  exact faultless_checked (steady_encodeWithin codec levels inner value) inside
    (fun _ => value) validators

end

/-- Values come to data along a settled node, or are found invalid, as long as no intersection looks
into an instance: because there are no intersections, or because there are no instances. -/
theorem faultless_encodeWithin_of {node : Node} {value : Value}
    (settled : node.Everywhere (Settled codec.types))
    (apart : node.Everywhere (SettledBothWays codec.types) ∨ value.InstanceFree) :
    Faultless (codec.encodeWithin levels node value).verdict := by
  induction levels generalizing node value with
  | zero => exact faultless_invalid
  | succ levels ih =>
      -- The children are encoded for the value itself, or for a part of it.
      have whole (child : Node) (member : child ∈ node.children) :
          Faultless (codec.encodeWithin levels child value).verdict :=
        ih (settled.of_mem_children member) (apart.imp_left (·.of_mem_children member))
      have inside (child : Node) (member : child ∈ node.children) (part : Value)
          (below : part ∈ value.parts) :
          Faultless (codec.encodeWithin levels child part).verdict :=
        ih (settled.of_mem_children member)
          (apart.imp (·.of_mem_children member) (·.of_mem_parts below))
      cases node with
      | builtIn kind => exact faultless_encode_builtIn
      | literal literal => exact faultless_encode_literal
      | enumeration name => exact faultless_encode_enumeration settled.here
      | dateTime className format => exact faultless_encode_dateTime
      | list item => exact faultless_encode_list (inside item (List.mem_singleton_self _))
      | record item => exact faultless_encode_record (inside item (List.mem_singleton_self _))
      | tuple nodes => exact faultless_encode_tuple inside
      | struct kind properties =>
          exact faultless_encode_struct fun property among =>
            inside property.node (List.mem_map_of_mem among)
      | union members discriminator => exact faultless_encode_union whole
      | intersection members kind =>
          rcases apart with none_below | free
          · exact none_below.here.elim
          · exact faultless_encode_intersection free.here fun member among entries shown =>
              ih (settled.of_mem_children among) (.inr (free.structValue kind shown))
      | constrained inner validators =>
          exact faultless_encode_constrained (whole inner (List.mem_singleton_self _))
      | cast inner target strategy => exact settled.here.elim
      | branded inner tag | named inner name =>
          rw [encodeWithin_of_not_ref rfl]
          exact whole inner (List.mem_singleton_self _)
      | ref key => exact settled.here.elim

/-- Values of every kind come to data along a node that is settled both ways, or are found
invalid. -/
theorem faultless_encodeWithin {node : Node}
    (settled : node.Everywhere (SettledBothWays codec.types)) (value : Value) :
    Faultless (codec.encodeWithin levels node value).verdict :=
  faultless_encodeWithin_of (settled.imp fun _ => settled_of_bothWays) (.inl settled)

end Codec

end Schemata
