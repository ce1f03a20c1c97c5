import Schemata.Proofs.Codec.References
import Schemata.Proofs.Codec.Steady

/-!
# When walks succeed

What it takes, shape by shape, for a node without references to be decoded or encoded within a
number of levels.
-/

namespace Schemata.Codec

open List (Forall₂)
open Walk

/-- Data decodes to a value along a node within some levels. -/
def Decodes (codec : Codec) (levels : Nat) (node : Node) (wire : Json) (value : Value) : Prop :=
  (codec.decodeWithin levels node wire).verdict = .ok value

/-- Data is refused along a node within some levels. -/
def Refuses (codec : Codec) (levels : Nat) (node : Node) (wire : Json) : Prop :=
  (codec.decodeWithin levels node wire).verdict = .error .invalid

/-- A value encodes to data along a node within some levels. -/
def Encodes (codec : Codec) (levels : Nat) (node : Node) (value : Value) (wire : Json) : Prop :=
  (codec.encodeWithin levels node value).verdict = .ok wire

/-- A value is turned down along a node within some levels. -/
def TurnsDown (codec : Codec) (levels : Nat) (node : Node) (value : Value) : Prop :=
  (codec.encodeWithin levels node value).verdict = .error .invalid

theorem verdict_ok {α : Type} (value : α) : (pure value : Walk α).verdict = .ok value := rfl

theorem verdict_fail {α : Type} (issue : Issue) :
    (fail issue : Walk α).verdict = .error .invalid := rfl

theorem verdict_within_fail {α : Type} (segment : Segment) (issue : Issue) :
    (within segment (fail issue) : Walk α).verdict = .error .invalid := rfl

theorem verdict_invalidType {α : Type} {codec : Codec} (node : Node) (actual : String) :
    (codec.invalidType node actual : Walk α).verdict = .error .invalid := rfl

theorem verdict_bind_eq_ok_iff {α β : Type} {walk : Walk α} {next : α → Walk β}
    (steady : Steady walk) (later : ∀ value, Steady (next value)) {result : β} :
    (walk >>= next).verdict = .ok result ↔
      ∃ value, walk.verdict = .ok value ∧ (next value).verdict = .ok result := by
  rw [steady.verdict_bind later, Except.bind_eq_ok_iff]

theorem verdict_enumCases_bind {α : Type} {codec : Codec} {name : String}
    {next : List String → Walk α} :
    (codec.enumCases name >>= next).verdict =
      match codec.types.enum? name with
      | some cases => (next cases).verdict
      | none => .error (.defect (.unknownTarget name)) := by
  unfold enumCases
  cases codec.types.enum? name with
  | some cases => rfl
  | none => rfl

/-- What asks for the entries of a value goes on with them, if it fails without any. -/
theorem verdict_entriesOf_bind_eq_ok_iff {α : Type} {codec : Codec} (value : Value)
    {next : Option (Dict Value) → Walk α} {issue : Issue} (without : next none = fail issue)
    {result : α} :
    (codec.entriesOf value >>= next).verdict = .ok result ↔
      ∃ entries, (codec.entriesOf value).verdict = .ok (some entries) ∧
        (next (some entries)).verdict = .ok result := by
  cases value with
  | map entries | object entries =>
      constructor
      · exact fun success => ⟨entries, rfl, success⟩
      · rintro ⟨_, ⟨⟩, success⟩
        exact success
  | host className fields =>
      simp only [entriesOf, fieldsOf, hostClass]
      cases codec.types.object? className with
      | none =>
          constructor
          · rintro ⟨⟩
          · rintro ⟨_, ⟨⟩, _⟩
      | some found =>
          simp only [pure_bind]
          cases found.flatten ⟨className, fields⟩ with
          | ok entries =>
              constructor
              · exact fun success => ⟨entries, rfl, success⟩
              · rintro ⟨_, ⟨⟩, success⟩
                exact success
          | error message =>
              have refused : (do
                  report (.castingFailed className message)
                  next none).verdict = .error .invalid := by
                rw [without]
                rfl
              constructor
              · intro success
                cases refused.symm.trans success
              · rintro ⟨_, ⟨⟩, _⟩
  | _ =>
      have refused : (next none).verdict = .error .invalid := by
        rw [without]
        rfl
      constructor
      · intro success
        cases refused.symm.trans success
      · rintro ⟨_, ⟨⟩, _⟩

/-- What the members of an intersection give for the same data, each merged over those before it. -/
inductive Gathered {α : Type} (gives : Node → Dict α → Prop) :
    Dict α → List Node → Dict α → Prop where
  | nil {merged : Dict α} : Gathered gives merged [] merged
  | cons {merged entries total : Dict α} {member : Node} {rest : List Node}
      (given : gives member entries)
      (later : Gathered gives (Dict.merge merged entries) rest total) :
      Gathered gives merged (member :: rest) total

theorem mapM_entries_eq_ok_iff {α β ε : Type} (change : α → Except ε β)
    {members : List (String × α)} {entries : List (String × β)} :
    (members.mapM fun member => do return (member.1, ← change member.2)) = .ok entries ↔
      Forall₂ (fun member entry => member.1 = entry.1 ∧ change member.2 = .ok entry.2)
        members entries := by
  rw [Except.mapM_eq_ok_iff]
  have same (member : String × α) (entry : String × β) :
      (do return (member.1, ← change member.2) : Except ε (String × β)) = .ok entry ↔
        member.1 = entry.1 ∧ change member.2 = .ok entry.2 := by
    rw [Except.bind_eq_ok_iff]
    constructor
    · rintro ⟨found, success, same⟩
      cases same
      exact ⟨rfl, success⟩
    · rintro ⟨name, success⟩
      exact ⟨entry.2, success, by rw [name]; rfl⟩
  simp only [same]

variable {codec : Codec} {levels : Nat} {wire : Json} {value : Value}

/-! ## Decoding -/

theorem not_decodes_zero {node : Node} : ¬ codec.Decodes 0 node wire value :=
  fun absurd => nomatch absurd

theorem decodes_iff_of_not_ref {node : Node} (notRef : node.isRef = false) :
    codec.Decodes (levels + 1) node wire value ↔
      (codec.decodeShape (codec.decodeWithin levels) node wire).verdict = .ok value := by
  rw [Decodes, decodeWithin_of_not_ref notRef]

theorem decodes_builtIn_iff {kind : BuiltIn} :
    codec.Decodes (levels + 1) (.builtIn kind) wire value ↔
      codec.primitive? kind wire = some value := by
  rw [decodes_iff_of_not_ref rfl, decodeShape]
  cases codec.primitive? kind wire with
  | none => simp [verdict_invalidType]
  | some found => simp [verdict_ok]

theorem decodes_literal_iff {literal : Literal} :
    codec.Decodes (levels + 1) (.literal literal) wire value ↔
      codec.isLiteral literal wire = true ∧ value = literal.toValue := by
  rw [decodes_iff_of_not_ref rfl, decodeShape]
  cases codec.isLiteral literal wire with
  | false => simp [verdict_fail]
  | true => simp [verdict_ok, eq_comm]

theorem decodes_enumeration_iff {name : String} :
    codec.Decodes (levels + 1) (.enumeration name) wire value ↔
      ∃ case cases, wire = .string case ∧ codec.types.enum? name = some cases ∧
        case ∈ cases ∧ value = .enumCase name case := by
  rw [decodes_iff_of_not_ref rfl]
  cases wire with
  | string case =>
      simp only [decodeShape, decodeCase, verdict_enumCases_bind]
      cases registered : codec.types.enum? name with
      | none => simp
      | some cases =>
          by_cases known : case ∈ cases
          · simp [known, verdict_ok, eq_comm]
          · simp [known, verdict_fail]
  | _ => simp [decodeShape, decodeCase, verdict_invalidType]

theorem decodes_dateTime_iff {className : String} {format : DateTimeFormat} :
    codec.Decodes (levels + 1) (.dateTime className format) wire value ↔
      ∃ text moment, wire = .string text ∧ format.read text = .ok moment ∧
        value = .dateTime className moment := by
  rw [decodes_iff_of_not_ref rfl]
  cases wire with
  | string text =>
      simp only [decodeShape, decodeMoment]
      cases read : format.read text with
      | error error => simp [verdict_fail, read]
      | ok moment => simp [verdict_ok, read, eq_comm]
  | _ => simp [decodeShape, decodeMoment, verdict_invalidType]

theorem decodes_list_iff {item : Node} :
    codec.Decodes (levels + 1) (.list item) wire value ↔
      ∃ items values, wire = .array items ∧ value = .list values ∧
        Forall₂ (codec.Decodes levels item) items values := by
  rw [decodes_iff_of_not_ref rfl]
  cases wire with
  | array items =>
      have comes := comesTo_items (steady_decodeWithin codec levels item) 0 items
      simp only [decodeShape, comes.steady.verdict_map, comes.verdict_eq, Except.map_eq_ok_iff,
        Except.mapM_eq_ok_iff]
      constructor
      · rintro ⟨values, inside, rfl⟩
        exact ⟨items, values, rfl, rfl, inside⟩
      · rintro ⟨_, values, same, rfl, inside⟩
        cases same
        exact ⟨values, inside, rfl⟩
  | _ => simp [decodeShape, verdict_invalidType]

theorem decodes_record_iff {item : Node} :
    codec.Decodes (levels + 1) (.record item) wire value ↔
      ∃ members entries, wire = .object members ∧ value = .map entries ∧
        Forall₂ (fun member entry => member.1 = entry.1 ∧
          codec.Decodes levels item member.2 entry.2) members entries := by
  rw [decodes_iff_of_not_ref rfl]
  cases wire with
  | object members =>
      have comes := comesTo_entries (steady_decodeWithin codec levels item) members
      simp only [decodeShape, comes.steady.verdict_map, comes.verdict_eq, Except.map_eq_ok_iff,
        mapM_entries_eq_ok_iff fun wire => (codec.decodeWithin levels item wire).verdict]
      constructor
      · rintro ⟨entries, inside, rfl⟩
        exact ⟨members, entries, rfl, rfl, inside⟩
      · rintro ⟨_, entries, same, rfl, inside⟩
        cases same
        exact ⟨entries, inside, rfl⟩
  | _ => simp [decodeShape, verdict_invalidType]

theorem decodes_tuple_iff {nodes : List Node} :
    codec.Decodes (levels + 1) (.tuple nodes) wire value ↔
      ∃ items values, wire = .array items ∧ value = .list values ∧
        items.length = nodes.length ∧
          Forall₂ (fun pair value => codec.Decodes levels pair.1 pair.2 value)
            (nodes.zip items) values := by
  rw [decodes_iff_of_not_ref rfl]
  cases wire with
  | array items =>
      have comes := comesTo_elements (steady_decodeWithin codec levels) nodes items
      simp only [decodeShape, comes.steady.verdict_map, comes.verdict_eq, Except.map_eq_ok_iff]
      split
      next lengths =>
        simp only [Except.mapM_eq_ok_iff]
        constructor
        · rintro ⟨values, inside, rfl⟩
          exact ⟨items, values, rfl, rfl, lengths, inside⟩
        · rintro ⟨_, values, same, rfl, _, inside⟩
          cases same
          exact ⟨values, inside, rfl⟩
      next lengths =>
        constructor
        · rintro ⟨_, absurd, _⟩
          cases absurd
        · rintro ⟨_, _, same, _, equal, _⟩
          cases same
          exact absurd equal lengths
  | _ => simp [decodeShape, verdict_invalidType]

def readProperties (properties : List (Property Node)) : List (Property Node) :=
  (sortedProperties properties).filter (·.direction.isInput)

theorem decodes_struct_iff {kind : StructKind} {properties : List (Property Node)} :
    codec.Decodes (levels + 1) (.struct kind properties) wire value ↔
      ∃ members entries, wire = .object members ∧ value = kind.value entries ∧
        Collected (codec.Decodes levels) members (readProperties properties) entries := by
  rw [decodes_iff_of_not_ref rfl]
  cases wire with
  | object members =>
      have steady := steady_decodeWithin codec levels
      simp only [decodeShape, (steady_properties steady).verdict_map, Except.map_eq_ok_iff,
        verdict_properties_eq_ok_iff steady]
      constructor
      · rintro ⟨entries, inside, rfl⟩
        exact ⟨members, entries, rfl, rfl, inside⟩
      · rintro ⟨_, entries, same, rfl, inside⟩
        cases same
        exact ⟨entries, inside, rfl⟩
  | _ => simp [decodeShape, verdict_invalidType]

/-- What a choice comes to, when it fails without a value. -/
def first {α : Type} : Option α → Except Stop α
  | some value => .ok value
  | none => .error .invalid

theorem first_eq_ok_iff {α : Type} (outcome : Except Stop (Option α)) {value : α} :
    outcome >>= first = .ok value ↔ outcome = .ok (some value) := by
  cases outcome with
  | error stop => simp [bind, Except.bind]
  | ok found => cases found <;> simp [bind, Except.bind, first]

theorem verdict_decodeFirst {node : Node} {members : List Node}
    (steady : ∀ member ∈ members, Steady (codec.decodeWithin levels member wire)) :
    (codec.decodeFirst (codec.decodeWithin levels) node members wire).verdict =
      (firstOf (codec.decodeWithin levels · wire) members).verdict >>= first := by
  refine (ComesTo.bind (steady_firstOf steady) fun found _ => ?_).verdict_eq
  cases found with
  | some value => exact comesTo_pure _
  | none => exact comesTo_fail _

/-- A union without a discriminator decodes along the first member that does not refuse. -/
theorem decodes_union_iff {members : List Node} :
    codec.Decodes (levels + 1) (.union members none) wire value ↔
      ∃ before member after, members = before ++ member :: after ∧
        (∀ other ∈ before, codec.Refuses levels other wire) ∧
          codec.Decodes levels member wire value := by
  have steady (member : Node) (_ : member ∈ members) := steady_decodeWithin codec levels member wire
  rw [decodes_iff_of_not_ref rfl, decodeShape, verdict_decodeFirst steady]
  exact (first_eq_ok_iff _).trans (verdict_firstOf_eq_some_iff steady)

/-- A union with a discriminator decodes along the arm that its field selects. -/
theorem decodes_discriminated_iff {members : List Node} {discriminator : Discriminator} :
    codec.Decodes (levels + 1) (.union members (some discriminator)) wire value ↔
      ∃ entries tag arm member, wire = .object entries ∧
        Dict.get? entries discriminator.field = some tag ∧ discriminator.armFor? tag = some arm ∧
          members[arm]? = some member ∧ codec.Decodes levels member wire value := by
  rw [decodes_iff_of_not_ref rfl]
  cases wire with
  | object entries =>
      simp only [decodeShape, decodeArm]
      cases found : Dict.get? entries discriminator.field with
      | none => simp [verdict_within_fail, found]
      | some tag =>
          dsimp only
          cases selected : discriminator.armFor? tag with
          | none => simp [verdict_within_fail, found, selected]
          | some arm =>
              rw [Option.bind_some]
              cases present : members[arm]? with
              | none => simp [verdict_within_fail, found, selected, present]
              | some member => simp [found, selected, present, Decodes]
  | _ => simp [decodeShape, decodeArm, verdict_invalidType]

/-- The entries that a member of an intersection takes from data. -/
def TakesEntries (codec : Codec) (levels : Nat) (wire : Json) (member : Node)
    (entries : Dict Value) : Prop :=
  ∃ value, codec.Decodes levels member wire value ∧
    (codec.entriesOf value).verdict = .ok (some entries)

theorem verdict_decodeMembers_eq_ok_iff {merged total : Dict Value} {members : List Node} :
    (codec.decodeMembers (codec.decodeWithin levels) wire merged members).verdict = .ok total ↔
      Gathered (codec.TakesEntries levels wire) merged members total := by
  have regular := regular_decodeWithin codec levels
  induction members generalizing merged with
  | nil =>
      constructor
      · rintro ⟨⟩
        exact .nil
      · rintro ⟨⟩
        rfl
  | cons member rest ih =>
      refine (verdict_bind_eq_ok_iff (regular member wire).steady fun value =>
        (regular_entriesOf_bind value
          (fun fields => regular_decodeMembers regular wire _ rest) rfl rfl).steady).trans ?_
      constructor
      · rintro ⟨value, taken, success⟩
        obtain ⟨entries, shown, later⟩ := (verdict_entriesOf_bind_eq_ok_iff value rfl).mp success
        exact .cons ⟨value, taken, shown⟩ (ih.mp later)
      · intro gathered
        cases gathered with
        | cons given later =>
            obtain ⟨value, taken, shown⟩ := given
            exact ⟨value, taken,
              (verdict_entriesOf_bind_eq_ok_iff value rfl).mpr ⟨_, shown, ih.mpr later⟩⟩

theorem decodes_intersection_iff {members : List Node} {kind : StructKind} :
    codec.Decodes (levels + 1) (.intersection members kind) wire value ↔
      ∃ fields entries, wire = .object fields ∧ value = kind.value entries ∧
        Gathered (codec.TakesEntries levels wire) [] members entries := by
  rw [decodes_iff_of_not_ref rfl]
  cases wire with
  | object fields =>
      simp only [decodeShape, (steady_decodeMembers levels _ _ members).verdict_map,
        Except.map_eq_ok_iff, verdict_decodeMembers_eq_ok_iff]
      constructor
      · rintro ⟨entries, gathered, rfl⟩
        exact ⟨fields, entries, rfl, rfl, gathered⟩
      · rintro ⟨_, entries, _, rfl, gathered⟩
        exact ⟨entries, gathered, rfl⟩
  | _ => simp [decodeShape, verdict_invalidType]

/-- A result counts when the value passes every validator. -/
theorem comesTo_checked {α : Type} (value : Value) (validators : List Validator) (result : α) :
    ComesTo (do Walk.validate value validators; return result)
      (if validators.all (·.check value) then .ok result else .error .invalid) := by
  have comes := (comesTo_validate value validators).bind fun _ _ => comesTo_pure result
  by_cases passes : validators.all (·.check value)
  · simpa only [passes] using! comes
  · simpa only [passes] using! comes

theorem decodes_constrained_iff {inner : Node} {validators : List Validator} :
    codec.Decodes (levels + 1) (.constrained inner validators) wire value ↔
      codec.Decodes levels inner wire value ∧ validators.all (·.check value) = true := by
  have later (value : Value) := comesTo_checked value validators value
  rw [decodes_iff_of_not_ref rfl, decodeShape,
    (steady_decodeWithin codec levels inner wire).verdict_bind fun value => (later value).steady,
    Except.bind_eq_ok_iff]
  simp only [(later _).verdict_eq]
  constructor
  · rintro ⟨found, inside, passes⟩
    split at passes
    next checked =>
      cases passes
      exact ⟨inside, checked⟩
    next => cases passes
  · rintro ⟨inside, passes⟩
    exact ⟨value, inside, if_pos passes⟩

theorem decodes_cast_iff {inner : Node} {target : String} {strategy : CastingStrategy} :
    codec.Decodes (levels + 1) (.cast inner target strategy) wire value ↔
      ∃ found, codec.Decodes levels inner wire found ∧
        (codec.build inner target strategy found).verdict = .ok value := by
  rw [decodes_iff_of_not_ref rfl]
  exact verdict_bind_eq_ok_iff (steady_decodeWithin codec levels inner wire) fun found =>
    (regular_build inner target strategy found).steady

theorem decodes_branded_iff {inner : Node} {tag : String} :
    codec.Decodes (levels + 1) (.branded inner tag) wire value ↔
      codec.Decodes levels inner wire value :=
  decodes_iff_of_not_ref rfl

theorem decodes_named_iff {inner : Node} {name : String} :
    codec.Decodes (levels + 1) (.named inner name) wire value ↔
      codec.Decodes levels inner wire value :=
  decodes_iff_of_not_ref rfl

/-! ## Encoding -/

theorem not_encodes_zero {node : Node} : ¬ codec.Encodes 0 node value wire :=
  fun absurd => nomatch absurd

theorem encodes_iff_of_not_ref {node : Node} (notRef : node.isRef = false) :
    codec.Encodes (levels + 1) node value wire ↔
      (codec.encodeShape (codec.encodeWithin levels) node value).verdict = .ok wire := by
  rw [Encodes, encodeWithin_of_not_ref notRef]

theorem encodes_builtIn_iff {kind : BuiltIn} :
    codec.Encodes (levels + 1) (.builtIn kind) value wire ↔
      encodePrimitive? kind value = some wire := by
  rw [encodes_iff_of_not_ref rfl, encodeShape]
  cases encodePrimitive? kind value with
  | none => simp [verdict_invalidType]
  | some found => simp [verdict_ok]

theorem encodes_literal_iff {literal : Literal} :
    codec.Encodes (levels + 1) (.literal literal) value wire ↔
      isLiteralValue literal value = true ∧ wire = literal.toJson := by
  rw [encodes_iff_of_not_ref rfl, encodeShape]
  cases isLiteralValue literal value with
  | false => simp [verdict_fail]
  | true => simp [verdict_ok, eq_comm]

theorem encodes_enumeration_iff {name : String} :
    codec.Encodes (levels + 1) (.enumeration name) value wire ↔
      ∃ case cases, value = .enumCase name case ∧ codec.types.enum? name = some cases ∧
        case ∈ cases ∧ wire = .string case := by
  rw [encodes_iff_of_not_ref rfl]
  cases value with
  | enumCase enumeration case =>
      simp only [encodeShape, encodeCase]
      by_cases same : enumeration = name
      · subst same
        rw [if_pos rfl, verdict_enumCases_bind]
        cases registered : codec.types.enum? enumeration with
        | none => simp
        | some cases =>
            by_cases known : case ∈ cases
            · simp [known, verdict_ok, eq_comm]
            · simp [known, verdict_fail]
      · simp [same, verdict_invalidType]
  | _ => simp [encodeShape, encodeCase, verdict_invalidType]

theorem encodes_dateTime_iff {className : String} {format : DateTimeFormat} :
    codec.Encodes (levels + 1) (.dateTime className format) value wire ↔
      ∃ other moment text, value = .dateTime other moment ∧ format.write moment = .ok text ∧
        wire = .string text := by
  rw [encodes_iff_of_not_ref rfl]
  cases value with
  | dateTime other moment =>
      simp only [encodeShape, encodeMoment]
      cases written : format.write moment with
      | error error => simp [verdict_fail, written]
      | ok text => simp [verdict_ok, written, eq_comm]
  | _ => simp [encodeShape, encodeMoment, verdict_invalidType]

theorem encodes_list_iff {item : Node} :
    codec.Encodes (levels + 1) (.list item) value wire ↔
      ∃ values items, value = .list values ∧ wire = .array items ∧
        Forall₂ (codec.Encodes levels item) values items := by
  rw [encodes_iff_of_not_ref rfl]
  cases value with
  | list values =>
      have comes := comesTo_items (steady_encodeWithin codec levels item) 0 values
      simp only [encodeShape, comes.steady.verdict_map, comes.verdict_eq, Except.map_eq_ok_iff,
        Except.mapM_eq_ok_iff]
      constructor
      · rintro ⟨items, inside, rfl⟩
        exact ⟨values, items, rfl, rfl, inside⟩
      · rintro ⟨_, items, same, rfl, inside⟩
        cases same
        exact ⟨items, inside, rfl⟩
  | _ => simp [encodeShape, verdict_invalidType]

theorem encodes_record_iff {item : Node} :
    codec.Encodes (levels + 1) (.record item) value wire ↔
      ∃ entries members, value.properties? = some entries ∧ wire = .object members ∧
        Forall₂ (fun entry member => entry.1 = member.1 ∧
          codec.Encodes levels item entry.2 member.2) entries members := by
  rw [encodes_iff_of_not_ref rfl]
  simp only [encodeShape]
  cases value.properties? with
  | some entries =>
      have comes := comesTo_entries (steady_encodeWithin codec levels item) entries
      simp only [comes.steady.verdict_map, comes.verdict_eq, Except.map_eq_ok_iff,
        mapM_entries_eq_ok_iff fun value => (codec.encodeWithin levels item value).verdict]
      constructor
      · rintro ⟨members, inside, rfl⟩
        exact ⟨entries, members, rfl, rfl, inside⟩
      · rintro ⟨_, members, same, rfl, inside⟩
        cases same
        exact ⟨members, inside, rfl⟩
  | none => simp [verdict_invalidType]

theorem encodes_tuple_iff {nodes : List Node} :
    codec.Encodes (levels + 1) (.tuple nodes) value wire ↔
      ∃ values items, value = .list values ∧ wire = .array items ∧
        values.length = nodes.length ∧
          Forall₂ (fun pair item => codec.Encodes levels pair.1 pair.2 item)
            (nodes.zip values) items := by
  rw [encodes_iff_of_not_ref rfl]
  cases value with
  | list values =>
      have comes := comesTo_elements (steady_encodeWithin codec levels) nodes values
      simp only [encodeShape, comes.steady.verdict_map, comes.verdict_eq, Except.map_eq_ok_iff]
      split
      next lengths =>
        simp only [Except.mapM_eq_ok_iff]
        constructor
        · rintro ⟨items, inside, rfl⟩
          exact ⟨values, items, rfl, rfl, lengths, inside⟩
        · rintro ⟨_, items, same, rfl, _, inside⟩
          cases same
          exact ⟨items, inside, rfl⟩
      next lengths =>
        constructor
        · rintro ⟨_, absurd, _⟩
          cases absurd
        · rintro ⟨_, _, same, _, equal, _⟩
          cases same
          exact absurd equal lengths
  | _ => simp [encodeShape, verdict_invalidType]

def writtenProperties (properties : List (Property Node)) : List (Property Node) :=
  (sortedProperties properties).filter (·.direction.isOutput)

theorem encodes_struct_iff {kind : StructKind} {properties : List (Property Node)} :
    codec.Encodes (levels + 1) (.struct kind properties) value wire ↔
      ∃ entries members, value.properties? = some entries ∧ wire = .object members ∧
        Collected (codec.Encodes levels) entries (writtenProperties properties) members := by
  rw [encodes_iff_of_not_ref rfl]
  simp only [encodeShape]
  cases value.properties? with
  | some entries =>
      have steady := steady_encodeWithin codec levels
      simp only [(steady_properties steady).verdict_map, Except.map_eq_ok_iff,
        verdict_properties_eq_ok_iff steady]
      constructor
      · rintro ⟨members, inside, rfl⟩
        exact ⟨entries, members, rfl, rfl, inside⟩
      · rintro ⟨_, members, same, rfl, inside⟩
        cases same
        exact ⟨members, inside, rfl⟩
  | none => simp [verdict_invalidType]

/-- A union whose discriminator selects an arm encodes along the arm. -/
theorem encodes_selected_iff {members : List Node} {discriminator : Option Discriminator}
    {member : Node} (selected : discriminator.bind (armOf? members · value) = some member) :
    codec.Encodes (levels + 1) (.union members discriminator) value wire ↔
      codec.Encodes levels member value wire := by
  rw [encodes_iff_of_not_ref rfl]
  simp only [encodeShape, selected, Encodes]

theorem verdict_encodeFirst {node : Node} {members : List Node}
    (steady : ∀ member ∈ members, Steady (codec.encodeWithin levels member value)) :
    (codec.encodeFirst (codec.encodeWithin levels) node members value).verdict =
      (firstOf (codec.encodeWithin levels · value) members).verdict >>= first := by
  refine (ComesTo.bind (steady_firstOf steady) fun found _ => ?_).verdict_eq
  cases found with
  | some value => exact comesTo_pure _
  | none => exact comesTo_fail _

/-- A union that selects no arm encodes along the first member that does not turn the value
down. -/
theorem encodes_unselected_iff {members : List Node} {discriminator : Option Discriminator}
    (unselected : discriminator.bind (armOf? members · value) = none) :
    codec.Encodes (levels + 1) (.union members discriminator) value wire ↔
      ∃ before member after, members = before ++ member :: after ∧
        (∀ other ∈ before, codec.TurnsDown levels other value) ∧
          codec.Encodes levels member value wire := by
  have steady (member : Node) (_ : member ∈ members) :=
    steady_encodeWithin codec levels member value
  rw [encodes_iff_of_not_ref rfl]
  simp only [encodeShape, unselected]
  rw [verdict_encodeFirst steady]
  exact (first_eq_ok_iff _).trans (verdict_firstOf_eq_some_iff steady)

theorem verdict_encodeMembers_eq_ok_iff {merged total : Dict Json} {members : List Node} :
    (codec.encodeMembers (codec.encodeWithin levels) value merged members).verdict = .ok total ↔
      Gathered (fun member fields => codec.Encodes levels member value (.object fields))
        merged members total := by
  have regular := regular_encodeWithin codec levels
  induction members generalizing merged with
  | nil =>
      constructor
      · rintro ⟨⟩
        exact .nil
      · rintro ⟨⟩
        rfl
  | cons member rest ih =>
      refine (verdict_bind_eq_ok_iff (regular member value).steady fun found => ?_).trans ?_
      · cases found with
        | object entries => exact (regular_encodeMembers regular value _ rest).steady
        | _ => exact (regular_invalidType _ _).steady
      · constructor
        · rintro ⟨found, given, success⟩
          cases found with
          | object fields => exact .cons given (ih.mp success)
          | _ => cases success
        · intro gathered
          cases gathered with
          | cons given later => exact ⟨_, given, ih.mpr later⟩

/-- An intersection encodes the entries of a value along each member. -/
theorem encodes_intersection_iff {members : List Node} {kind : StructKind} :
    codec.Encodes (levels + 1) (.intersection members kind) value wire ↔
      ∃ entries fields, (codec.entriesOf value).verdict = .ok (some entries) ∧
        wire = .object fields ∧
          Gathered (fun member fields =>
            codec.Encodes levels member (kind.value entries) (.object fields)) [] members
            fields := by
  have regular := regular_encodeWithin codec levels
  rw [encodes_iff_of_not_ref rfl]
  simp only [encodeShape]
  rw [verdict_entriesOf_bind_eq_ok_iff value rfl]
  have each (entries : Dict Value) :
      Steady (codec.encodeMembers (codec.encodeWithin levels) (kind.value entries) [] members) :=
    (regular_encodeMembers regular _ _ members).steady
  simp only [(each _).verdict_map, Except.map_eq_ok_iff, verdict_encodeMembers_eq_ok_iff]
  constructor
  · rintro ⟨entries, shown, fields, gathered, rfl⟩
    exact ⟨entries, fields, shown, rfl, gathered⟩
  · rintro ⟨entries, fields, shown, rfl, gathered⟩
    exact ⟨entries, shown, fields, gathered, rfl⟩

theorem encodes_constrained_iff {inner : Node} {validators : List Validator} :
    codec.Encodes (levels + 1) (.constrained inner validators) value wire ↔
      codec.Encodes levels inner value wire ∧ validators.all (·.check value) = true := by
  have later (wire : Json) : ComesTo (do Walk.validate value validators; return wire)
      (if validators.all (·.check value) then .ok wire else .error .invalid) :=
    comesTo_checked value validators wire
  rw [encodes_iff_of_not_ref rfl, encodeShape,
    (steady_encodeWithin codec levels inner value).verdict_bind fun wire => (later wire).steady,
    Except.bind_eq_ok_iff]
  simp only [(later _).verdict_eq]
  by_cases passes : validators.all (·.check value) = true
  · simp [passes, Encodes]
  · simp [passes]

theorem encodes_branded_iff {inner : Node} {tag : String} :
    codec.Encodes (levels + 1) (.branded inner tag) value wire ↔
      codec.Encodes levels inner value wire :=
  encodes_iff_of_not_ref rfl

theorem encodes_named_iff {inner : Node} {name : String} :
    codec.Encodes (levels + 1) (.named inner name) value wire ↔
      codec.Encodes levels inner value wire :=
  encodes_iff_of_not_ref rfl

end Schemata.Codec
