import Mathlib.Data.List.Nodup
import Schemata.Proofs.Codec.Untagged
import Schemata.Proofs.Codec.Widening

/-!
# What comes back along intersections

An intersection gives the entries of all its members, and encodes all entries along every member.
What a member writes therefore shows an entry of its own only where no later member read the same
key in another way.  Still, what is written in the end shows the value, since the later members win
in both directions.
-/

namespace Schemata

namespace Node

/-- The root of a node in which structs have distinct names in both directions, intersections are of
structs or intersections, and nothing is a moment, a union, a cast or a reference. -/
def IsCombined : Node → Prop
  | .struct _ properties =>
      (properties.map Property.name).Nodup ∧ ∀ property ∈ properties, property.direction = .both
  | .intersection members _ => ∀ member ∈ members, member.structKind?.isSome = true
  | .dateTime .. | .union .. | .cast .. | .ref _ => False
  | _ => True

def Combined : Node → Prop :=
  Everywhere IsCombined

theorem Combined.dispatched {node : Node} (combined : node.Combined) :
    node.Everywhere IsDispatched := by
  refine combined.imp fun node here => ?_
  cases node with
  | union | ref => exact here.elim
  | _ => trivial

end Node

namespace Codec

open List (Forall₂)
open Walk

variable {codec : Codec} {levels : Nat} {node : Node} {wire written : Json} {value : Value}

/-! ## Merged entries -/

section

variable {α : Type} {gives : Node → Dict α → Prop} {merged total : Dict α} {members : List Node}

theorem Gathered.ascending (gathered : Gathered gives merged members total)
    (ascending : (merged.map Prod.fst).Pairwise (· < ·)) :
    (total.map Prod.fst).Pairwise (· < ·) := by
  induction gathered with
  | nil => exact ascending
  | cons _ _ ih => exact ih (Dict.ascending_merge ascending _)

variable (distinct : ∀ member ∈ members, ∀ entries, gives member entries →
  (entries.map Prod.fst).Nodup)

include distinct

/-- What has been merged is never lost, though it may be replaced. -/
theorem Gathered.get?_ne_none (gathered : Gathered gives merged members total) {key : String}
    (present : Dict.get? merged key ≠ none) : Dict.get? total key ≠ none := by
  induction gathered with
  | nil => exact present
  | cons given _ ih =>
      obtain ⟨here, later⟩ := List.forall_mem_cons.mp distinct
      refine ih later ?_
      rw [Dict.get?_merge (here _ given)]
      simp [present]

/-- Every entry of the result was there before or is given by a member. -/
theorem Gathered.exists_of_get?_eq_some (gathered : Gathered gives merged members total)
    {key : String} {value : α} (found : Dict.get? total key = some value) :
    Dict.get? merged key = some value ∨
      ∃ member ∈ members, ∃ entries, gives member entries ∧ Dict.get? entries key = some value := by
  induction gathered with
  | nil => exact Or.inl found
  | @cons merged entries total member rest given _ ih =>
      obtain ⟨here, later⟩ := List.forall_mem_cons.mp distinct
      rcases ih later found with before | ⟨other, among, entries, given, found⟩
      · rw [Dict.get?_merge (here _ given), Option.or_eq_some_iff] at before
        rcases before with own | ⟨_, before⟩
        · exact Or.inr ⟨member, List.mem_cons_self, entries, given, own⟩
        · exact Or.inl before
      · exact Or.inr ⟨other, List.mem_cons_of_mem _ among, entries, given, found⟩

end

/-! ## Structs -/

theorem entriesOf_of_properties? {entries : Dict Value} (shown : value.properties? = some entries) :
    codec.entriesOf value = pure (some entries) := by
  cases value with
  | map found | object found =>
      obtain rfl := Option.some.inj shown
      rfl
  | _ => cases shown

/-- Along a node with a struct at its root, an object comes to entries under keys of its own, in
ascending order. -/
theorem exists_entries_of_decodes (combined : node.Combined)
    (root : node.structKind?.isSome = true) (decoded : codec.Decodes levels node wire value) :
    ∃ fields entries, wire = .object fields ∧ value.properties? = some entries ∧
      (entries.map Prod.fst).Pairwise (· < ·) ∧
        ∀ key, Dict.get? entries key ≠ none → Dict.get? fields key ≠ none := by
  induction levels generalizing node value with
  | zero => exact absurd decoded not_decodes_zero
  | succ levels ih =>
      cases node with
      | struct kind properties =>
          obtain ⟨names, both⟩ := combined.here
          obtain ⟨fields, entries, rfl, rfl, collected⟩ := decodes_struct_iff.mp decoded
          rw [readProperties_eq_sorted both] at collected
          refine ⟨fields, entries, rfl, properties?_kind_value kind entries,
            (ascending_sortedProperties names).sublist collected.names_sublist, ?_⟩
          intro key present
          obtain ⟨entry, found⟩ := Option.ne_none_iff_exists'.mp present
          obtain ⟨_, _, rfl, member, here, _⟩ := collected.exists_of_get?_eq_some found
          simp [here]
      | intersection members kind =>
          obtain ⟨fields, entries, rfl, rfl, gathered⟩ := decodes_intersection_iff.mp decoded
          have given (member : Node) (among : member ∈ members) (own : Dict Value)
              (gives : codec.TakesEntries levels (.object fields) member own) :
              (own.map Prod.fst).Pairwise (· < ·) ∧
                ∀ key, Dict.get? own key ≠ none → Dict.get? fields key ≠ none := by
            obtain ⟨found, taken, shown⟩ := gives
            obtain ⟨_, _, same, known, ascending, within⟩ :=
              ih (combined.of_mem_children among) (combined.here member among) taken
            cases same
            rw [entriesOf_of_properties? known] at shown
            cases shown
            exact ⟨ascending, within⟩
          refine ⟨fields, entries, rfl, properties?_kind_value kind entries,
            gathered.ascending .nil, fun key present => ?_⟩
          obtain ⟨entry, found⟩ := Option.ne_none_iff_exists'.mp present
          rcases gathered.exists_of_get?_eq_some (fun member among own gives =>
            Dict.nodup_of_ascending (given member among own gives).1) found with
            nothing | ⟨member, among, own, gives, here⟩
          · cases nothing
          · exact (given member among own gives).2 key (by simp [here])
      | constrained inner validators =>
          exact ih (combined.of_mem_children (List.mem_singleton_self _)) root
            (decodes_constrained_iff.mp decoded).1
      | named inner name =>
          exact ih (combined.of_mem_children (List.mem_singleton_self _)) root
            (decodes_named_iff.mp decoded)
      | cast => exact combined.here.elim
      | _ => cases root

/-- Along a node with a struct at its root, an object is written, with its keys in ascending
order. -/
theorem exists_fields_of_encodes (combined : node.Combined)
    (root : node.structKind?.isSome = true) (encoded : codec.Encodes levels node value written) :
    ∃ fields, written = .object fields ∧ (fields.map Prod.fst).Pairwise (· < ·) := by
  induction levels generalizing node value with
  | zero => exact absurd encoded not_encodes_zero
  | succ levels ih =>
      cases node with
      | struct kind properties =>
          obtain ⟨names, both⟩ := combined.here
          obtain ⟨entries, fields, _, rfl, collected⟩ := encodes_struct_iff.mp encoded
          rw [writtenProperties_eq_sorted both] at collected
          exact ⟨fields, rfl,
            (ascending_sortedProperties names).sublist collected.names_sublist⟩
      | intersection members kind =>
          obtain ⟨entries, fields, _, rfl, gathered⟩ := encodes_intersection_iff.mp encoded
          exact ⟨fields, rfl, gathered.ascending .nil⟩
      | constrained inner validators =>
          exact ih (combined.of_mem_children (List.mem_singleton_self _)) root
            (encodes_constrained_iff.mp encoded).1
      | named inner name =>
          exact ih (combined.of_mem_children (List.mem_singleton_self _)) root
            (encodes_named_iff.mp encoded)
      | cast => exact combined.here.elim
      | _ => cases root

/-- What a member of an intersection takes. -/
theorem exists_value_of_takesEntries {member : Node} {fields : Dict Json} {entries : Dict Value}
    (combined : member.Combined) (root : member.structKind?.isSome = true)
    (taken : codec.TakesEntries levels (.object fields) member entries) :
    ∃ value, codec.Decodes levels member (.object fields) value ∧
      value.properties? = some entries ∧ (entries.map Prod.fst).Pairwise (· < ·) ∧
        ∀ key, Dict.get? entries key ≠ none → Dict.get? fields key ≠ none := by
  obtain ⟨value, decoded, shown⟩ := taken
  obtain ⟨_, _, same, known, ascending, within⟩ := exists_entries_of_decodes combined root decoded
  cases same
  rw [entriesOf_of_properties? known] at shown
  cases shown
  exact ⟨value, decoded, known, ascending, within⟩

/-! ## Restored entries -/

/-- What is written has the keys of some entries, and shows every one of them that stands in the
whole as well. -/
def Restores (whole own : Dict Value) (written : Dict Json) : Prop :=
  ∀ key, (Dict.get? own key = none ↔ Dict.get? written key = none) ∧
    ∀ value, Dict.get? own key = some value → Dict.get? whole key = some value →
      ∃ form, Dict.get? written key = some form ∧ value.toJson? = some form

theorem Restores.merge {whole merged own : Dict Value} {before fields : Dict Json}
    (ahead : Restores whole merged before) (here : Restores whole own fields)
    (distinct : (own.map Prod.fst).Nodup) (distinct' : (fields.map Prod.fst).Nodup) :
    Restores whole (Dict.merge merged own) (Dict.merge before fields) := by
  intro key
  rw [Dict.get?_merge distinct, Dict.get?_merge distinct']
  obtain ⟨keys, shows⟩ := here key
  obtain ⟨keys', shows'⟩ := ahead key
  cases found : Dict.get? own key with
  | none =>
      rw [keys.mp found]
      exact ⟨keys', shows'⟩
  | some value =>
      rw [found] at keys shows
      obtain ⟨form, written⟩ := Option.ne_none_iff_exists'.mp (mt keys.mpr (by simp))
      rw [written] at shows ⊢
      exact ⟨by simp, shows⟩

/-- What restores all of some entries is their JSON form. -/
theorem Restores.toJsonEntries? {entries : Dict Value} {fields : Dict Json}
    (restores : Restores entries entries fields)
    (ascending : (entries.map Prod.fst).Pairwise (· < ·))
    (ascending' : (fields.map Prod.fst).Pairwise (· < ·)) :
    Value.toJsonEntries? entries = some fields := by
  rw [Value.toJsonEntries?_eq_some_iff]
  have shown (key : String) (value : Value) (form : Json)
      (found : Dict.get? entries key = some value) (found' : Dict.get? fields key = some form) :
      value.toJson? = some form := by
    obtain ⟨other, written, shows⟩ := (restores key).2 value found found
    rw [written] at found'
    cases found'
    exact shows
  exact Dict.forall₂_of_get? ascending ascending' (fun key => (restores key).1) shown

/-- What is encoded again of decoded data is the JSON form of the value. -/
def Faithful (codec : Codec) (levels : Nat) : Prop :=
  ∀ node, node.Combined → ∀ wire value written, codec.Decodes levels node wire value →
    codec.Encodes levels node value written → value.toJson? = some written

/-- What a struct writes of entries from the same data restores those that the struct reads. -/
theorem restores_collected {properties : List (Property Node)} {fields : Dict Json}
    {own whole : Dict Value} {written : Dict Json} (faithful : codec.Faithful levels)
    (combined : ∀ property ∈ properties, property.node.Combined)
    (names : (properties.map Property.name).Nodup)
    (read : Collected (codec.Decodes levels) fields properties own)
    (wrote : Collected (codec.Encodes levels) whole properties written)
    (covers : ∀ key, Dict.get? own key ≠ none → Dict.get? whole key ≠ none)
    (within : ∀ key, Dict.get? whole key ≠ none → Dict.get? fields key ≠ none) :
    Restores whole own written := by
  intro key
  refine ⟨⟨fun absent => ?_, fun absent => ?_⟩, fun value found same => ?_⟩
  · by_contra present
    obtain ⟨form, found⟩ := Option.ne_none_iff_exists'.mp present
    obtain ⟨property, among, rfl, entry, here, _⟩ := wrote.exists_of_get?_eq_some found
    exact within property.name (by simp [here])
      (read.get?_eq_none (List.mem_map_of_mem among) absent)
  · by_contra present
    obtain ⟨value, found⟩ := Option.ne_none_iff_exists'.mp present
    obtain ⟨property, among, rfl, _⟩ := read.exists_of_get?_eq_some found
    exact covers property.name present
      (wrote.get?_eq_none (List.mem_map_of_mem among) absent)
  · obtain ⟨property, among, rfl, member, _, decoded⟩ := read.exists_of_get?_eq_some found
    obtain ⟨form, shown⟩ : ∃ form, Dict.get? written property.name = some form := by
      refine Option.ne_none_iff_exists'.mp fun absent => ?_
      exact covers property.name (by simp [found])
        (wrote.get?_eq_none (List.mem_map_of_mem among) absent)
    obtain ⟨other, among', name, entry, here, encoded⟩ := wrote.exists_of_get?_eq_some shown
    obtain rfl := List.inj_on_of_nodup_map names among' among name
    obtain rfl := Option.some.inj (same.symm.trans here)
    exact ⟨form, shown, faithful _ (combined _ among) _ _ _ decoded encoded⟩

/-- What a node with a struct at its root writes of entries from the same data restores those that
the node takes. -/
def Restoring (codec : Codec) (levels : Nat) : Prop :=
  ∀ node, node.Combined → node.structKind?.isSome = true →
    ∀ fields taken own value whole written, codec.Decodes levels node (.object fields) taken →
      taken.properties? = some own → codec.Encodes levels node value (.object written) →
        value.properties? = some whole →
          (∀ key, Dict.get? own key ≠ none → Dict.get? whole key ≠ none) →
            (∀ key, Dict.get? whole key ≠ none → Dict.get? fields key ≠ none) →
              Restores whole own written

theorem restores_gathered {members : List Node} {fields : Dict Json}
    {whole merged total : Dict Value} {before written : Dict Json} {value : Value}
    (restoring : codec.Restoring levels)
    (combined : ∀ member ∈ members, member.Combined ∧ member.structKind?.isSome = true)
    (shown : value.properties? = some whole)
    (took : Gathered (codec.TakesEntries levels (.object fields)) merged members total)
    (wrote : Gathered (fun member fields => codec.Encodes levels member value (.object fields))
      before members written)
    (covers : ∀ key, Dict.get? total key ≠ none → Dict.get? whole key ≠ none)
    (within : ∀ key, Dict.get? whole key ≠ none → Dict.get? fields key ≠ none)
    (ahead : Restores whole merged before) : Restores whole total written := by
  induction took generalizing before with
  | nil =>
      cases wrote
      exact ahead
  | @cons merged own total member rest given later ih =>
      cases wrote with
      | @cons _ parts _ _ _ encoded wrote =>
          obtain ⟨⟨here, root⟩, others⟩ := List.forall_mem_cons.mp combined
          obtain ⟨taken, decoded, known, ascending, _⟩ :=
            exists_value_of_takesEntries here root given
          obtain ⟨_, same, ascending'⟩ := exists_fields_of_encodes here root encoded
          cases same
          have distinct (other : Node) (among : other ∈ rest) (entries : Dict Value)
              (taken : codec.TakesEntries levels (.object fields) other entries) :
              (entries.map Prod.fst).Nodup := by
            obtain ⟨_, _, _, ascending, _⟩ :=
              exists_value_of_takesEntries (others other among).1 (others other among).2 taken
            exact Dict.nodup_of_ascending ascending
          have kept (key : String) (present : Dict.get? own key ≠ none) :
              Dict.get? whole key ≠ none := by
            refine covers key (later.get?_ne_none distinct ?_)
            rw [Dict.get?_merge (Dict.nodup_of_ascending ascending)]
            simp [present]
          have restores : Restores whole own parts :=
            restoring member here root _ _ _ _ _ _ decoded known encoded shown kept within
          exact ih others wrote covers (ahead.merge restores
            (Dict.nodup_of_ascending ascending) (Dict.nodup_of_ascending ascending'))

theorem restoring_succ (faithful : codec.Faithful levels) (restoring : codec.Restoring levels) :
    codec.Restoring (levels + 1) := by
  intro node combined root fields taken own value whole written decoded known encoded shown covers
    within
  have inside {child : Node} (among : child ∈ node.children) := combined.of_mem_children among
  cases node with
  | struct kind properties =>
      obtain ⟨names, both⟩ := combined.here
      obtain ⟨_, entries, same, rfl, read⟩ := decodes_struct_iff.mp decoded
      cases same
      rw [properties?_kind_value] at known
      cases known
      obtain ⟨_, _, shown', same, wrote⟩ := encodes_struct_iff.mp encoded
      cases same
      rw [shown] at shown'
      cases shown'
      rw [readProperties_eq_sorted both] at read
      rw [writtenProperties_eq_sorted both] at wrote
      exact restores_collected faithful
        (fun property among => inside (List.mem_map_of_mem (mem_sortedProperties.mp among)))
        (nodup_sortedProperties names) read wrote covers within
  | intersection members kind =>
      obtain ⟨_, entries, same, rfl, took⟩ := decodes_intersection_iff.mp decoded
      cases same
      rw [properties?_kind_value] at known
      cases known
      obtain ⟨_, _, shown', same, wrote⟩ := encodes_intersection_iff.mp encoded
      cases same
      rw [entriesOf_of_properties? shown] at shown'
      cases shown'
      exact restores_gathered restoring
        (fun member among => ⟨inside among, combined.here member among⟩)
        (properties?_kind_value kind whole) took wrote covers within fun key => by simp
  | constrained inner validators =>
      exact restoring inner (inside (List.mem_singleton_self _)) root fields taken own value whole
        written (decodes_constrained_iff.mp decoded).1 known (encodes_constrained_iff.mp encoded).1
        shown covers within
  | named inner name =>
      exact restoring inner (inside (List.mem_singleton_self _)) root fields taken own value whole
        written (decodes_named_iff.mp decoded) known (encodes_named_iff.mp encoded) shown covers
        within
  | cast => exact combined.here.elim
  | _ => cases root

/-- With its own entries as the whole, a struct or an intersection restores all of them. -/
theorem toJson?_of_restoring (restoring : codec.Restoring levels) (combined : node.Combined)
    (root : node.structKind?.isSome = true) (decoded : codec.Decodes levels node wire value)
    (encoded : codec.Encodes levels node value written) : value.toJson? = some written := by
  obtain ⟨fields, entries, rfl, known, ascending, within⟩ :=
    exists_entries_of_decodes combined root decoded
  obtain ⟨shown, rfl, ascending'⟩ := exists_fields_of_encodes combined root encoded
  have restores : Restores entries entries shown :=
    restoring node combined root fields value entries value entries shown decoded known encoded
      known (fun _ present => present) within
  have form := restores.toJsonEntries? ascending ascending'
  cases value with
  | map found | object found =>
      obtain rfl := Option.some.inj known
      rw [Value.toJson?, form]
      rfl
  | _ => cases known

theorem forall₂_of_zips {reads : Node → Json → Value → Prop} {writes : Node → Value → Json → Prop}
    {shows : Value → Json → Prop} {nodes : List Node} {items forms : List Json}
    {values : List Value} (lengths : values.length = nodes.length)
    (one : Forall₂ (fun pair value => reads pair.1 pair.2 value) (nodes.zip items) values)
    (two : Forall₂ (fun pair form => writes pair.1 pair.2 form) (nodes.zip values) forms)
    (each : ∀ node ∈ nodes, ∀ item value form, reads node item value → writes node value form →
      shows value form) : Forall₂ shows values forms := by
  induction nodes generalizing items values forms with
  | nil =>
      obtain rfl := List.length_eq_zero_iff.mp lengths
      cases two
      exact .nil
  | cons node nodes ih =>
      cases items with
      | nil =>
          cases one
          cases lengths
      | cons item items =>
          cases one with
          | cons here later =>
              cases two with
              | cons here' later' =>
                  refine .cons (each node List.mem_cons_self _ _ _ here here') ?_
                  exact ih (Nat.succ.inj lengths) later later'
                    fun other among => each other (List.mem_cons_of_mem _ among)

theorem faithful_succ (faithful : codec.Faithful levels)
    (restoring : codec.Restoring (levels + 1)) : codec.Faithful (levels + 1) := by
  intro node combined wire value written decoded encoded
  have inside {child : Node} (among : child ∈ node.children) {wire written : Json}
      {value : Value} :=
    faithful child (combined.of_mem_children among) wire value written
  cases node with
  | builtIn kind => exact toJson?_of_encodePrimitive? (encodes_builtIn_iff.mp encoded)
  | literal literal =>
      obtain ⟨stands, rfl⟩ := decodes_literal_iff.mp decoded
      obtain ⟨_, rfl⟩ := encodes_literal_iff.mp encoded
      exact Literal.toJson?_toValue (isFinite_of_isLiteral stands)
  | enumeration name =>
      obtain ⟨case, _, rfl, _, _, rfl⟩ := encodes_enumeration_iff.mp encoded
      rfl
  | list item =>
      obtain ⟨items, values, rfl, rfl, each⟩ := decodes_list_iff.mp decoded
      obtain ⟨_, forms, same, rfl, each'⟩ := encodes_list_iff.mp encoded
      cases same
      have shown := forall₂_of_steps each each' fun _ _ _ => inside (List.mem_singleton_self _)
      simp [Value.toJson?, Value.toJsonItems?_eq_some_iff.mpr shown]
  | record item =>
      obtain ⟨members, entries, rfl, rfl, each⟩ := decodes_record_iff.mp decoded
      obtain ⟨_, forms, same, rfl, each'⟩ := encodes_record_iff.mp encoded
      cases same
      have shown : Forall₂ (fun entry form => entry.1 = form.1 ∧ entry.2.toJson? = some form.2)
          entries forms :=
        forall₂_of_steps each each' fun _ _ _ decoded encoded =>
          ⟨encoded.1, inside (List.mem_singleton_self _) decoded.2 encoded.2⟩
      simp [Value.toJson?, Value.toJsonEntries?_eq_some_iff.mpr shown]
  | tuple nodes =>
      obtain ⟨items, values, rfl, rfl, _, each⟩ := decodes_tuple_iff.mp decoded
      obtain ⟨_, forms, same, rfl, lengths, each'⟩ := encodes_tuple_iff.mp encoded
      cases same
      have shown := forall₂_of_zips lengths each each' fun node among _ _ _ => inside among
      simp [Value.toJson?, Value.toJsonItems?_eq_some_iff.mpr shown]
  | struct kind properties | intersection members kind =>
      exact toJson?_of_restoring restoring combined rfl decoded encoded
  | constrained inner validators =>
      exact inside (List.mem_singleton_self _) (decodes_constrained_iff.mp decoded).1
        (encodes_constrained_iff.mp encoded).1
  | branded inner tag =>
      exact inside (List.mem_singleton_self _) (decodes_branded_iff.mp decoded)
        (encodes_branded_iff.mp encoded)
  | named inner name =>
      exact inside (List.mem_singleton_self _) (decodes_named_iff.mp decoded)
        (encodes_named_iff.mp encoded)
  | dateTime | union | cast | ref => exact combined.here.elim

theorem faithful_and_restoring (codec : Codec) (levels : Nat) :
    codec.Faithful levels ∧ codec.Restoring levels := by
  induction levels with
  | zero =>
      constructor
      · exact fun node _ wire value written decoded _ => absurd decoded not_decodes_zero
      · exact fun node _ _ fields taken own value whole written decoded =>
          absurd decoded not_decodes_zero
  | succ levels ih =>
      have restoring := restoring_succ ih.1 ih.2
      exact ⟨faithful_succ ih.1 restoring, restoring⟩

end Codec

end Schemata
