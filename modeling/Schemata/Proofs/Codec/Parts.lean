import Schemata.Proofs.Codec.Selection
import Schemata.Proofs.Node.Projection
import Schemata.Proofs.Node.WellFormed

/-!
# Parts of structs

A selection of keys splits a struct in two: the properties that it keeps, and those that it drops.
Data decodes along the struct when it decodes along both parts, and to what the parts give together.
-/

namespace Schemata

/-! ## Entries by keys -/

namespace Dict

variable {α : Type} {dict : Dict α} {keep : String → Bool}

theorem get?_filter (dict : Dict α) (keep : String → Bool) (key : String) :
    get? (dict.filter fun entry => keep entry.1) key = if keep key then get? dict key else none := by
  induction dict with
  | nil => simp
  | cons entry rest ih =>
      by_cases same : entry.1 = key
      · subst same
        by_cases kept : keep entry.1
        · rw [List.filter_cons_of_pos (by exact kept), get?_cons, get?_cons, if_pos rfl, if_pos rfl,
            if_pos kept]
        · rw [List.filter_cons_of_neg (by exact kept), ih, if_neg kept, if_neg kept]
      · rw [get?_cons, if_neg same, ← ih]
        by_cases kept : keep entry.1
        · rw [List.filter_cons_of_pos (by exact kept), get?_cons, if_neg same]
        · rw [List.filter_cons_of_neg (by exact kept)]

/-- A dictionary is put together from the entries under some keys and those under the others. -/
theorem merge_filter (ascending : (dict.map Prod.fst).Pairwise (· < ·)) (keep : String → Bool) :
    merge (dict.filter fun entry => keep entry.1) (dict.filter fun entry => !keep entry.1) =
      dict := by
  have part (chosen : String × α → Bool) :
      ((dict.filter chosen).map Prod.fst).Pairwise (· < ·) :=
    ascending.sublist (List.filter_sublist.map _)
  refine eq_of_get? (ascending_merge (part _) _) ascending fun key => ?_
  rw [get?_merge (nodup_of_ascending (part _)), get?_filter,
    get?_filter dict fun name => !keep name]
  cases keep key <;> simp

end Dict

namespace Walk

variable {α β : Type} {reads : Node → β → α → Prop} {members : Dict β}
  {properties : List (Property Node)} {values : Dict α}

/-- Along some of the properties, what is collected under their names is collected. -/
theorem Collected.filter (collected : Collected reads members properties values)
    (keep : String → Bool) :
    Collected reads members (properties.filter fun property => keep property.name)
      (values.filter fun entry => keep entry.1) := by
  induction collected with
  | nil => exact .nil
  | @present property _ _ value _ found read _ ih =>
      by_cases kept : keep property.name
      · rw [List.filter_cons_of_pos (by exact kept), List.filter_cons_of_pos (by exact kept)]
        exact .present found read ih
      · rw [List.filter_cons_of_neg (by exact kept), List.filter_cons_of_neg (by exact kept)]
        exact ih
  | @missing property _ _ absent optional _ ih =>
      by_cases kept : keep property.name
      · rw [List.filter_cons_of_pos (by exact kept)]
        exact .missing absent optional ih
      · rw [List.filter_cons_of_neg (by exact kept)]
        exact ih

/-- What is collected along some of the properties and along the others is collected along all of
them.  The induction takes the next property from the one part or from the other. -/
theorem Collected.of_filters (keep : String → Bool) {properties : List (Property Node)}
    {kept dropped : Dict α}
    (first : Collected reads members (properties.filter fun property => keep property.name) kept)
    (second : Collected reads members (properties.filter fun property => !keep property.name)
      dropped) : ∃ values, Collected reads members properties values := by
  induction properties generalizing kept dropped with
  | nil => exact ⟨[], .nil⟩
  | cons property rest ih =>
      have add {found : Dict α} {others : List (Property Node)}
          (collected : Collected reads members (property :: others) found)
          (later : ∀ left, Collected reads members others left →
            ∃ values, Collected reads members rest values) :
          ∃ values, Collected reads members (property :: rest) values := by
        cases collected with
        | present found read left =>
            obtain ⟨values, all⟩ := later _ left
            exact ⟨_, .present found read all⟩
        | missing absent optional left =>
            obtain ⟨values, all⟩ := later _ left
            exact ⟨_, .missing absent optional all⟩
      by_cases here : keep property.name
      · rw [List.filter_cons_of_pos (by exact here)] at first
        rw [List.filter_cons_of_neg (by simpa using here)] at second
        exact add first fun _ left => ih left second
      · rw [List.filter_cons_of_neg (by exact here)] at first
        rw [List.filter_cons_of_pos (by simpa using here)] at second
        exact add second fun _ left => ih first left

end Walk

/-! ## Selections under labels -/

/-- Some properties in two parts, by whether their names are among some keys. -/
structure Property.SplitBy (keys : List String) (properties kept dropped : List (Property Node)) :
    Prop where
  first : kept.Sublist properties
  second : dropped.Sublist properties
  together : (kept ++ dropped).Perm properties
  apart : (kept.map Property.name).Disjoint (dropped.map Property.name)
  chosen : ∀ property ∈ kept, property.name ∈ keys
  unchosen : ∀ property ∈ dropped, property.name ∉ keys

namespace Property

variable {keys : List String} {properties kept dropped : List (Property Node)}

theorem splitBy_filter (keys : List String) (properties : List (Property Node)) :
    SplitBy keys properties (properties.filter fun property => keys.contains property.name)
      (properties.filter fun property => !keys.contains property.name) := by
  have chosen : ∀ property ∈ properties.filter fun property => keys.contains property.name,
      property.name ∈ keys := by
    intro property among
    simpa using (List.mem_filter.mp among).2
  have unchosen : ∀ property ∈ properties.filter fun property => !keys.contains property.name,
      property.name ∉ keys := by
    intro property among
    simpa using (List.mem_filter.mp among).2
  refine ⟨List.filter_sublist, List.filter_sublist, List.filter_append_perm _ _, ?_, chosen,
    unchosen⟩
  intro name here there
  obtain ⟨property, among, rfl⟩ := List.mem_map.mp here
  obtain ⟨other, among', same⟩ := List.mem_map.mp there
  exact unchosen other among' (same ▸ chosen property among)

/-- Names that are distinct in both parts are distinct. -/
theorem SplitBy.nodup (split : SplitBy keys properties kept dropped)
    (distinct : (kept.map Property.name).Nodup) (distinct' : (dropped.map Property.name).Nodup) :
    (properties.map Property.name).Nodup := by
  rw [← (split.together.map Property.name).nodup_iff, List.map_append]
  exact List.nodup_append.mpr ⟨distinct, distinct', List.disjoint_iff_ne.mp split.apart⟩

end Property

namespace Node

/-- A node under labels, the first of them on the outside. -/
def labelled (labels : List String) (node : Node) : Node :=
  labels.foldr (fun name inner => .named inner name) node

/-- Under labels, a selection from a struct is the struct of the selected properties. -/
theorem selectProperties_labelled {labels : List String} {kind : StructKind}
    {properties : List (Property Node)} {keys : List String} {keep : Bool} {selected : Node}
    (success : (labelled labels (.struct kind properties)).selectProperties keys keep =
      .ok selected) :
    let chosen := properties.filter fun property => keys.contains property.name == keep
    selected = labelled labels (.struct kind chosen) ∧ (chosen.map Property.name).Nodup := by
  induction labels generalizing selected with
  | nil =>
      obtain ⟨rfl, _, distinct⟩ := structOf_eq_ok success
      exact ⟨rfl, distinct⟩
  | cons name rest ih =>
      obtain ⟨inner, inside, rfl⟩ := Except.map_eq_ok_iff.mp success
      obtain ⟨rfl, distinct⟩ := ih inside
      exact ⟨rfl, distinct⟩

end Node

namespace Codec

open Node Walk

variable {codec : Codec} {levels : Nat} {wire : Json} {value : Value} {labels keys : List String}
  {kind : StructKind} {properties : List (Property Node)}

/-- Every label takes a level. -/
theorem decodes_labelled_iff {node : Node} :
    codec.Decodes levels (labelled labels node) wire value ↔
      codec.Decodes (levels - labels.length) node wire value := by
  induction labels generalizing levels with
  | nil => rfl
  | cons name rest ih =>
      cases levels with
      | zero =>
          rw [Nat.zero_sub]
          exact iff_of_false not_decodes_zero not_decodes_zero
      | succ levels =>
          rw [List.length_cons, Nat.add_sub_add_right, ← ih]
          exact decodes_named_iff

/-- Data decodes along a struct under labels when the properties are collected from it. -/
theorem decode_labelled_struct_eq_ok_iff :
    codec.decode (labelled labels (.struct kind properties)) wire = .ok value ↔
      ∃ below members entries, codec.options.maxDepth = labels.length + below + 1 ∧
        wire = .object members ∧ value = kind.value entries ∧
          Collected (codec.Decodes below) members (readProperties properties) entries := by
  rw [decode_eq_ok_iff]
  refine decodes_labelled_iff.trans ?_
  cases left : codec.options.maxDepth - labels.length with
  | zero =>
      refine iff_of_false not_decodes_zero ?_
      rintro ⟨below, _, _, depth, _⟩
      omega
  | succ below =>
      rw [decodes_struct_iff]
      constructor
      · rintro ⟨members, entries, data, same, collected⟩
        exact ⟨below, members, entries, by omega, data, same, collected⟩
      · rintro ⟨below', members, entries, depth, data, same, collected⟩
        obtain rfl : below' = below := by omega
        exact ⟨members, entries, data, same, collected⟩

theorem readProperties_filter (keep : String → Bool) :
    readProperties (properties.filter fun property => keep property.name) =
      (readProperties properties).filter fun property => keep property.name := by
  rw [readProperties, sortedProperties, sortByName_filter, List.filter_comm]
  rfl

/-- The values of the two parts are put together again in the order of the names. -/
theorem merge_filter_of_collected {below : Nat} {members : Dict Json} {entries : Dict Value}
    (names : (properties.map Property.name).Nodup)
    (collected : Collected (codec.Decodes below) members (readProperties properties) entries)
    (keep : String → Bool) :
    Dict.merge (entries.filter fun entry => keep entry.1)
      (entries.filter fun entry => !keep entry.1) = entries := by
  have sorted : ((readProperties properties).map Property.name).Pairwise (· < ·) :=
    (ascending_sortedProperties names).sublist (List.filter_sublist.map _)
  exact Dict.merge_filter (sorted.sublist collected.names_sublist) keep

/-- Data that decodes along a struct decodes along both parts of it. -/
theorem decode_parts (names : (properties.map Property.name).Nodup) (keep : String → Bool)
    (success : codec.decode (labelled labels (.struct kind properties)) wire = .ok value) :
    ∃ ours theirs,
      codec.decode (labelled labels (.struct kind
        (properties.filter fun property => keep property.name))) wire = .ok (kind.value ours) ∧
      codec.decode (labelled labels (.struct kind
        (properties.filter fun property => !keep property.name))) wire = .ok (kind.value theirs) ∧
      (∀ key, Dict.get? ours key = none ∨ Dict.get? theirs key = none) ∧
      value = kind.value (Dict.merge ours theirs) := by
  obtain ⟨below, members, entries, depth, rfl, rfl, collected⟩ :=
    decode_labelled_struct_eq_ok_iff.mp success
  have part (chosen : String → Bool) :
      codec.decode (labelled labels (.struct kind
        (properties.filter fun property => chosen property.name))) (.object members) =
        .ok (kind.value (entries.filter fun entry => chosen entry.1)) := by
    refine decode_labelled_struct_eq_ok_iff.mpr ⟨below, members, _, depth, rfl, rfl, ?_⟩
    rw [readProperties_filter]
    exact collected.filter chosen
  refine ⟨_, _, part keep, part fun name => !keep name, fun key => ?_, ?_⟩
  · rw [Dict.get?_filter, Dict.get?_filter entries fun name => !keep name]
    cases keep key <;> simp
  · rw [merge_filter_of_collected names collected keep]

/-- Data that decodes along both parts of a struct decodes along the struct. -/
theorem exists_decode_of_parts (keep : String → Bool) {value other : Value}
    (first : codec.decode (labelled labels (.struct kind
      (properties.filter fun property => keep property.name))) wire = .ok value)
    (second : codec.decode (labelled labels (.struct kind
      (properties.filter fun property => !keep property.name))) wire = .ok other) :
    ∃ value, codec.decode (labelled labels (.struct kind properties)) wire = .ok value := by
  obtain ⟨below, members, kept, depth, rfl, _, ours⟩ := decode_labelled_struct_eq_ok_iff.mp first
  obtain ⟨below', _, dropped, depth', same, _, theirs⟩ :=
    decode_labelled_struct_eq_ok_iff.mp second
  cases same
  obtain rfl : below' = below := by omega
  rw [readProperties_filter] at ours
  rw [readProperties_filter fun name => !keep name] at theirs
  obtain ⟨entries, all⟩ := Collected.of_filters keep ours theirs
  exact ⟨_, decode_labelled_struct_eq_ok_iff.mpr ⟨below', members, entries, depth, rfl, rfl, all⟩⟩

/-- Two selections by the same keys split a struct under labels.  Data decodes along the struct
exactly when it decodes along both parts, and the value is put together from theirs. -/
theorem decode_of_selections (labels : List String) (kind : StructKind)
    (properties : List (Property Node)) (keys : List String) {picked omitted : Node}
    (picks : (labelled labels (.struct kind properties)).selectProperties keys true = .ok picked)
    (omits : (labelled labels (.struct kind properties)).selectProperties keys false =
      .ok omitted) :
    ∃ kept dropped, picked = labelled labels (.struct kind kept) ∧
      omitted = labelled labels (.struct kind dropped) ∧
      Property.SplitBy keys properties kept dropped ∧
      ∀ (codec : Codec) (wire : Json),
        ((∃ value, codec.decode (labelled labels (.struct kind properties)) wire = .ok value) ↔
          (∃ value, codec.decode picked wire = .ok value) ∧
            ∃ value, codec.decode omitted wire = .ok value) ∧
        ∀ value, codec.decode (labelled labels (.struct kind properties)) wire = .ok value →
          ∃ ours theirs, codec.decode picked wire = .ok (kind.value ours) ∧
            codec.decode omitted wire = .ok (kind.value theirs) ∧
            (∀ key, Dict.get? ours key = none ∨ Dict.get? theirs key = none) ∧
            value = kind.value (Dict.merge ours theirs) := by
  obtain ⟨rfl, distinct⟩ := selectProperties_labelled picks
  obtain ⟨rfl, distinct'⟩ := selectProperties_labelled omits
  simp only [beq_true, beq_false] at distinct distinct' ⊢
  have split := Property.splitBy_filter keys properties
  have names := split.nodup distinct distinct'
  refine ⟨_, _, rfl, rfl, split, fun codec wire => ⟨⟨?_, ?_⟩, ?_⟩⟩
  · rintro ⟨value, success⟩
    obtain ⟨ours, theirs, first, second, _⟩ := decode_parts names _ success
    exact ⟨⟨_, first⟩, _, second⟩
  · rintro ⟨⟨_, first⟩, _, second⟩
    exact exists_decode_of_parts _ first second
  · intro value success
    exact decode_parts names _ success

/-- A struct under a label, split by keys of which one names nothing and one stands twice.  Each
part takes its own entry from the same data, and the struct takes both. -/
theorem decode_of_selections_account :
    let account : List (Property Node) :=
      [required "name" (.builtIn .string), { required "age" (.builtIn .int) with optional := true }]
    let keys := ["age", "height", "age"]
    let codec : Codec := { types := {} }
    let wire : Json := .object [("age", .ofInt64 41), ("name", .string "Ada")]
    (labelled ["Account"] (.struct .object account)).selectProperties keys true =
        .ok (labelled ["Account"] (.struct .object (account.drop 1))) ∧
      (labelled ["Account"] (.struct .object account)).selectProperties keys false =
        .ok (labelled ["Account"] (.struct .object (account.take 1))) ∧
      (∃ kept dropped, Property.SplitBy keys account kept dropped) ∧
      codec.decode (labelled ["Account"] (.struct .object (account.drop 1))) wire =
        .ok (.object [("age", .int 41)]) ∧
      codec.decode (labelled ["Account"] (.struct .object (account.take 1))) wire =
        .ok (.object [("name", .string "Ada")]) ∧
      codec.decode (labelled ["Account"] (.struct .object account)) wire =
        .ok (.object [("age", .int 41), ("name", .string "Ada")]) := by
  intro account keys codec wire
  have picks : (labelled ["Account"] (.struct .object account)).selectProperties keys true =
      .ok (labelled ["Account"] (.struct .object (account.drop 1))) := rfl
  have omits : (labelled ["Account"] (.struct .object account)).selectProperties keys false =
      .ok (labelled ["Account"] (.struct .object (account.take 1))) := rfl
  have picked : codec.decode (labelled ["Account"] (.struct .object (account.drop 1))) wire =
      .ok (.object [("age", .int 41)]) := by
    refine decode_labelled_struct_eq_ok_iff.mpr ⟨126, _, _, rfl, rfl, rfl, ?_⟩
    change Collected _ _ (readProperties [_]) _
    rw [readProperties, sortedProperties_singleton]
    exact .present rfl (decodes_builtIn_iff.mpr rfl) .nil
  have omitted : codec.decode (labelled ["Account"] (.struct .object (account.take 1))) wire =
      .ok (.object [("name", .string "Ada")]) := by
    refine decode_labelled_struct_eq_ok_iff.mpr ⟨126, _, _, rfl, rfl, rfl, ?_⟩
    change Collected _ _ (readProperties [_]) _
    rw [readProperties, sortedProperties_singleton]
    exact .present rfl (decodes_builtIn_iff.mpr rfl) .nil
  obtain ⟨kept, dropped, _, _, split, decodes⟩ :=
    decode_of_selections ["Account"] .object account keys picks omits
  obtain ⟨both, parts⟩ := decodes codec wire
  obtain ⟨value, success⟩ := both.mpr ⟨⟨_, picked⟩, _, omitted⟩
  -- The parts that the value is put together from are the ones that are known.
  obtain ⟨ours, theirs, first, second, _, rfl⟩ := parts value success
  cases first.symm.trans picked
  cases second.symm.trans omitted
  exact ⟨picks, omits, ⟨kept, dropped, split⟩, picked, omitted, success⟩

end Codec

end Schemata
