import Schemata.Codec.Encode

/-!
# What walks are put together from

Every walk along a node is put together from a few kinds of steps: it comes to a value, refuses with
issues or ends in a fault, and goes on behind, inside or apart from such walks.  What holds of the
steps and passes through their composition therefore holds of decoding and encoding.  Of the issues
it is known that the one that tells of the depth of a walk names the limit of that depth.
-/

namespace Schemata

/-- If the issue tells of the depth of a walk, then that some limit was exceeded. -/
def Issue.NamesLimit (limit : Nat) (issue : Issue) : Prop :=
  issue.key = "depth_exceeded" → issue = depthExceeded limit

namespace Walk

variable {codec : Codec} {α β : Type}

/-- Reports some issues in order, and stops. -/
def refuse (issues : List Issue) : Walk α := do
  issues.forM report
  throw .invalid

/-- A walk that is put together from steps that give a value, refuse or end in a fault.  None of
them tells of another limit than that of the codec. -/
inductive Regular (codec : Codec) : {α : Type} → Walk α → Prop where
  | value {α : Type} (found : α) : Regular codec (pure found)
  | refusal {α : Type} (issue : Issue) (more : List Issue)
      (named : ∀ reported ∈ issue :: more, reported.NamesLimit codec.options.maxDepth) :
      Regular codec (refuse (issue :: more) : Walk α)
  | fault {α : Type} (fault : Defect) : Regular codec (defect fault : Walk α)
  | bind {α β : Type} {walk : Walk α} {next : α → Walk β} (first : Regular codec walk)
      (later : ∀ value, Regular codec (next value)) : Regular codec (walk >>= next)
  | within {α : Type} (segment : Segment) {walk : Walk α} (inside : Regular codec walk) :
      Regular codec (within segment walk)
  | optional {α : Type} {walk : Walk α} (inside : Regular codec walk) :
      Regular codec (optional walk)
  | attempt {α : Type} {walk : Walk α} (inside : Regular codec walk) :
      Regular codec (attempt walk)

section

variable {limit : Nat} {issue : Issue}

theorem namesLimit_of_key_ne (other : issue.key ≠ "depth_exceeded") : issue.NamesLimit limit :=
  fun depth => absurd depth other

/-- The key of a validator is none of a walk. -/
theorem namesLimit_ofValidator (validator : Validator) :
    (Issue.ofValidator validator).NamesLimit limit := by
  refine namesLimit_of_key_ne ?_
  cases validator <;> exact ne_of_beq_false rfl

end

namespace Regular

theorem stop {issue : Issue} (named : issue.NamesLimit codec.options.maxDepth) :
    Regular codec (Walk.fail issue : Walk α) :=
  .refusal issue [] (List.forall_mem_singleton.2 named)

theorem fail (issue : Issue) (other : (issue.key == "depth_exceeded") = false) :
    Regular codec (Walk.fail issue : Walk α) :=
  .stop (namesLimit_of_key_ne (ne_of_beq_false other))

theorem map {walk : Walk α} (regular : Regular codec walk) (change : α → β) :
    Regular codec (do return change (← walk)) :=
  regular.bind fun _ => .value _

end Regular

/-! ## Composed walks -/

section

variable {walk : β → Walk α}

theorem regular_firstOf (each : ∀ choice, Regular codec (walk choice)) (choices : List β) :
    Regular codec (firstOf walk choices) := by
  induction choices with
  | nil => exact .value _
  | cons choice rest ih =>
      refine (each choice).attempt.bind fun found => ?_
      cases found with
      | some value => exact .value _
      | none => exact ih

theorem regular_items (each : ∀ item, Regular codec (walk item)) (index : Nat) (values : List β) :
    Regular codec (items walk index values) := by
  induction values generalizing index with
  | nil => exact .value _
  | cons item rest ih =>
      refine ((each item).within _).bind fun value => ?_
      exact (ih (index + 1)).map _

theorem regular_entries (each : ∀ item, Regular codec (walk item)) (members : List (String × β)) :
    Regular codec (entries walk members) := by
  induction members with
  | nil => exact .value _
  | cons member rest ih =>
      refine ((each member.2).within _).bind fun value => ?_
      exact ih.map _

end

section

variable {walk : Node → β → Walk α} (each : ∀ node item, Regular codec (walk node item))
include each

theorem regular_elements (nodes : List Node) (values : List β) :
    Regular codec (elements walk nodes values) := by
  unfold elements
  split
  · exact regular_items (fun pair : Node × β => each pair.1 pair.2) 0 _
  · exact .fail _ rfl

/-- Looking for a member that is not there gives nothing. -/
theorem regular_member (members : Dict β) (property : Property Node) :
    Regular codec (Walk.optional <| within (.key property.name) <|
      match Dict.get? members property.name with
      | some member => walk property.node member
      | none => throw .absent) := by
  cases Dict.get? members property.name with
  | some member => exact ((each _ member).within _).optional
  | none =>
      have nothing : (Walk.optional (within (.key property.name) (throw .absent)) :
          Walk (Option α)) = pure none := rfl
      rw [nothing]
      exact .value none

theorem regular_properties (members : Dict β) (properties : List (Property Node)) :
    Regular codec (Walk.properties walk members properties) := by
  induction properties with
  | nil => exact .value _
  | cons property rest ih =>
      refine (regular_member each members property).bind fun found => ?_
      cases found with
      | some value => exact ih.map _
      | none =>
          dsimp only
          split
          · exact ih
          · exact .within _ (.fail _ rfl)

end

/-- A value that passes not every validator is refused with an issue for each that it fails. -/
theorem regular_validate (value : Value) (validators : List Validator) :
    Regular codec (validate value validators) := by
  unfold validate
  generalize validators.filter (fun validator => !validator.check value) = failed
  cases failed with
  | nil => exact .value _
  | cons validator rest =>
      have refused : (do
          (validator :: rest).forM fun validator => report (.ofValidator validator)
          if (validator :: rest).isEmpty then return ()
          else throw .invalid : Walk Unit) =
          refuse ((validator :: rest).map Issue.ofValidator) := by
        rw [refuse, List.forM_eq_forM, List.forM_eq_forM, List.forM_map]
        rfl
      refine refused ▸ .refusal _ _ fun issue among => ?_
      rw [← List.map_cons, List.mem_map] at among
      obtain ⟨validator, _, rfl⟩ := among
      exact namesLimit_ofValidator validator

end Walk

namespace Codec

open Walk

variable {codec : Codec} {α : Type}

theorem regular_invalidType (node : Node) (actual : String) :
    Regular codec (codec.invalidType node actual : Walk α) :=
  .fail _ rfl

theorem regular_target (node : Node) : Regular codec (codec.target node) := by
  cases node with
  | ref key =>
      simp only [target]
      split
      · exact .fault _
      · split
        · exact .value _
        · exact .fault _
  | _ => exact .value _

theorem regular_hostClass (name : String) : Regular codec (codec.hostClass name) := by
  unfold hostClass
  split
  · exact .value _
  · exact .fault _

theorem regular_enumCases (name : String) : Regular codec (codec.enumCases name) := by
  unfold enumCases
  split
  · exact .value _
  · exact .fault _

/-- Taking an instance apart is regular when a walk whose class refuses to do so is refused. -/
theorem regular_fieldsOf_bind (hosted : HostInstance) {next : Option (Dict Value) → Walk α}
    (some_fields : ∀ fields, Regular codec (next (some fields))) (issues : List Issue)
    (no_fields : next none = refuse issues)
    (named : ∀ issue ∈ issues, issue.NamesLimit codec.options.maxDepth) :
    Regular codec (codec.fieldsOf hosted >>= next) := by
  unfold fieldsOf
  rw [bind_assoc]
  refine (regular_hostClass _).bind fun found => ?_
  cases found.flatten hosted with
  | ok fields => exact some_fields fields
  | error message =>
      have refused : (do
          report (.castingFailed hosted.className message)
          next none) = refuse (.castingFailed hosted.className message :: issues) := by
        rw [no_fields]
        rfl
      have other : (Issue.castingFailed hosted.className message).key ≠ "depth_exceeded" :=
        ne_of_beq_false rfl
      refine refused ▸ .refusal _ _ (List.forall_mem_cons.2 ⟨?_, named⟩)
      exact namesLimit_of_key_ne other

theorem regular_entriesOf_bind (value : Value) {next : Option (Dict Value) → Walk α}
    (some_fields : ∀ fields, Regular codec (next (some fields))) {issue : Issue}
    (no_fields : next none = Walk.fail issue)
    (other : (issue.key == "depth_exceeded") = false) :
    Regular codec (codec.entriesOf value >>= next) := by
  have nothing : Regular codec (next none) := no_fields ▸ .fail issue other
  cases value with
  | map fields | object fields => exact some_fields fields
  | host className fields =>
      refine regular_fieldsOf_bind _ some_fields [issue] no_fields fun reported among => ?_
      obtain rfl := List.mem_singleton.1 among
      exact namesLimit_of_key_ne (ne_of_beq_false other)
  | _ => exact nothing

/-! ## Decoding -/

section

variable {child : Node → Json → Walk Value} (regular : ∀ node wire, Regular codec (child node wire))
include regular

theorem regular_decodeFirst (node : Node) (members : List Node) (wire : Json) :
    Regular codec (codec.decodeFirst child node members wire) := by
  refine (regular_firstOf (fun member => regular member wire) members).bind fun found => ?_
  cases found with
  | some value => exact .value _
  | none => exact .fail _ rfl

theorem regular_decodeArm (node : Node) (members : List Node) (discriminator : Discriminator)
    (wire : Json) : Regular codec (codec.decodeArm child node members discriminator wire) := by
  cases wire with
  | object entries =>
      simp only [decodeArm]
      split
      · exact .within _ (.fail _ rfl)
      · split
        · exact regular _ _
        · exact .within _ (.fail _ rfl)
  | _ => exact regular_invalidType _ _

theorem regular_decodeMembers (wire : Json) (merged : Dict Value) (members : List Node) :
    Regular codec (codec.decodeMembers child wire merged members) := by
  induction members generalizing merged with
  | nil => exact .value _
  | cons member rest ih =>
      refine (regular member wire).bind fun value => ?_
      exact regular_entriesOf_bind value (fun fields => ih _) rfl rfl

omit regular in
theorem regular_build (inner : Node) (target : String) (strategy : CastingStrategy)
    (value : Value) : Regular codec (codec.build inner target strategy value) := by
  refine (regular_hostClass _).bind fun found => ?_
  dsimp only
  split
  all_goals
    refine .bind ?_ fun built => ?_
    · first
        | exact .value _
        | exact regular_invalidType _ _
    · cases built with
      | ok hosted => exact .value _
      | error message => exact .fail _ rfl

theorem regular_decodeShape (node : Node) (wire : Json) :
    Regular codec (codec.decodeShape child node wire) := by
  cases node with
  | builtIn kind =>
      simp only [decodeShape]
      split
      · exact .value _
      · exact regular_invalidType _ _
  | literal literal =>
      simp only [decodeShape]
      split
      · exact .value _
      · exact .fail _ rfl
  | enumeration name =>
      cases wire with
      | string case =>
          refine (regular_enumCases name).bind fun cases => ?_
          split
          · exact .value _
          · exact .fail _ rfl
      | _ => exact regular_invalidType _ _
  | dateTime className format =>
      cases wire with
      | string text =>
          simp only [decodeShape, decodeMoment]
          split
          · exact .value _
          · exact .fail _ rfl
      | _ => exact regular_invalidType _ _
  | list item =>
      cases wire with
      | array items => exact (regular_items (regular item) 0 items).map _
      | _ => exact regular_invalidType _ _
  | record item =>
      cases wire with
      | object members => exact (regular_entries (regular item) members).map _
      | _ => exact regular_invalidType _ _
  | tuple nodes =>
      cases wire with
      | array items => exact (regular_elements regular nodes items).map _
      | _ => exact regular_invalidType _ _
  | struct kind properties =>
      cases wire with
      | object members => exact (regular_properties regular members _).map _
      | _ => exact regular_invalidType _ _
  | union members discriminator =>
      cases discriminator with
      | some discriminator => exact regular_decodeArm regular _ members discriminator wire
      | none => exact regular_decodeFirst regular _ members wire
  | intersection members kind =>
      cases wire with
      | object entries => exact (regular_decodeMembers regular _ _ members).map _
      | _ => exact regular_invalidType _ _
  | constrained inner validators =>
      refine (regular inner wire).bind fun value => ?_
      exact (regular_validate value validators).bind fun _ => .value _
  | cast inner target strategy =>
      exact (regular inner wire).bind fun value => regular_build _ _ _ value
  | branded inner tag | named inner name => exact regular inner wire
  | ref key => exact .fault _

end

variable (codec) in
theorem regular_decodeWithin (levels : Nat) (node : Node) (wire : Json) :
    Regular codec (codec.decodeWithin levels node wire) := by
  induction levels generalizing node wire with
  | zero => exact .stop fun _ => rfl
  | succ levels ih =>
      exact (regular_target node).bind fun target => regular_decodeShape ih target wire

/-! ## Encoding -/

section

variable {child : Node → Value → Walk Json}
  (regular : ∀ node value, Regular codec (child node value))
include regular

theorem regular_encodeFirst (node : Node) (members : List Node) (value : Value) :
    Regular codec (codec.encodeFirst child node members value) := by
  refine (regular_firstOf (fun member => regular member value) members).bind fun found => ?_
  cases found with
  | some wire => exact .value _
  | none => exact .fail _ rfl

theorem regular_encodeMembers (value : Value) (merged : Dict Json) (members : List Node) :
    Regular codec (codec.encodeMembers child value merged members) := by
  induction members generalizing merged with
  | nil => exact .value _
  | cons member rest ih =>
      refine (regular member value).bind fun wire => ?_
      cases wire with
      | object entries => exact ih _
      | _ => exact regular_invalidType _ _

omit regular in
/-- An instance that its class refuses to take apart ends the walk. -/
theorem regular_flattened (inner : Node) (target : String) (strategy : CastingStrategy)
    (hosted : HostInstance) : Regular codec (codec.flattened inner target strategy hosted) := by
  simp only [flattened]
  split
  · refine regular_fieldsOf_bind hosted (fun fields => ?_) [] rfl nofun
    cases strategy with
    | collection =>
        dsimp only
        split
        · exact .value _
        · exact .fail _ rfl
    | constructor | assignProperties => exact .value _
  · exact regular_invalidType _ _

theorem regular_encodeShape (node : Node) (value : Value) :
    Regular codec (codec.encodeShape child node value) := by
  cases node with
  | builtIn kind =>
      simp only [encodeShape]
      split
      · exact .value _
      · exact regular_invalidType _ _
  | literal literal =>
      simp only [encodeShape]
      split
      · exact .value _
      · exact .fail _ rfl
  | enumeration name =>
      cases value with
      | enumCase enumeration case =>
          simp only [encodeShape, encodeCase]
          split
          · refine (regular_enumCases name).bind fun cases => ?_
            split
            · exact .value _
            · exact .fail _ rfl
          · exact regular_invalidType _ _
      | _ => exact regular_invalidType _ _
  | dateTime className format =>
      cases value with
      | dateTime name moment =>
          simp only [encodeShape, encodeMoment]
          split
          · exact .value _
          · exact .fail _ rfl
      | _ => exact regular_invalidType _ _
  | list item =>
      cases value with
      | list items => exact (regular_items (regular item) 0 items).map _
      | _ => exact regular_invalidType _ _
  | record item =>
      simp only [encodeShape]
      split
      · exact (regular_entries (regular item) _).map _
      · exact regular_invalidType _ _
  | tuple nodes =>
      cases value with
      | list items => exact (regular_elements regular nodes items).map _
      | _ => exact regular_invalidType _ _
  | struct kind properties =>
      simp only [encodeShape]
      split
      · exact (regular_properties regular _ _).map _
      · exact regular_invalidType _ _
  | union members discriminator =>
      simp only [encodeShape]
      split
      · exact regular _ _
      · exact regular_encodeFirst regular _ members value
  | intersection members kind =>
      simp only [encodeShape]
      refine regular_entriesOf_bind value (fun fields => ?_) rfl rfl
      exact (regular_encodeMembers regular _ _ members).map _
  | constrained inner validators =>
      refine (regular inner value).bind fun wire => ?_
      exact (regular_validate value validators).bind fun _ => .value _
  | cast inner target strategy =>
      cases value with
      | host className fields =>
          exact (regular_flattened inner _ _ _).bind fun value => regular inner value
      | _ => exact regular inner _
  | branded inner tag | named inner name => exact regular inner value
  | ref key => exact .fault _

end

variable (codec) in
theorem regular_encodeWithin (levels : Nat) (node : Node) (value : Value) :
    Regular codec (codec.encodeWithin levels node value) := by
  induction levels generalizing node value with
  | zero => exact .stop fun _ => rfl
  | succ levels ih =>
      exact (regular_target node).bind fun target => regular_encodeShape ih target value

end Codec

end Schemata
