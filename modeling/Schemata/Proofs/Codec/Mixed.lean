import Schemata.Proofs.Codec.Forms
import Schemata.Proofs.Codec.Integers

/-!
# Data of any type

Data that is taken as it is comes back as it was, except that integers behind the greatest signed
word come back as the doubles nearest to them.  A value that is made of data alone is the value of
its JSON form.
-/

namespace Schemata

namespace Json

/-- An integer behind the greatest signed word. -/
def Number.IsBehindWords : Number → Prop
  | .integer value _ => 9223372036854775807 < value
  | .float .. => False

/-- The number, or the double nearest to it when it is an integer behind the signed words. -/
def Number.narrowed (number : Number) : Number :=
  match number.toInt64? with
  | some _ => number
  | none => .float number.toBinary64 number.isFinite_toBinary64

mutual

/-- The data with all its numbers narrowed. -/
def narrowed : Json → Json
  | .number value => .number value.narrowed
  | .array items => .array (narrowedItems items)
  | .object members => .object (narrowedMembers members)
  | .null => .null
  | .bool value => .bool value
  | .string value => .string value

def narrowedItems : List Json → List Json
  | [] => []
  | item :: rest => narrowed item :: narrowedItems rest

def narrowedMembers : List (String × Json) → List (String × Json)
  | [] => []
  | (key, value) :: rest => (key, narrowed value) :: narrowedMembers rest

end

mutual

def numbers : Json → List Number
  | .number value => [value]
  | .array items => numbersOfItems items
  | .object members => numbersOfMembers members
  | .null | .bool _ | .string _ => []

def numbersOfItems : List Json → List Number
  | [] => []
  | item :: rest => numbers item ++ numbersOfItems rest

def numbersOfMembers : List (String × Json) → List Number
  | [] => []
  | (_, value) :: rest => numbers value ++ numbersOfMembers rest

end

theorem Number.narrowed_eq_self_iff {number : Number} :
    number.narrowed = number ↔ ¬ number.IsBehindWords := by
  cases number with
  | float => simp [narrowed, IsBehindWords, toInt64?, toBinary64]
  | integer value fits =>
      by_cases small : value ≤ 9223372036854775807 <;>
        simp [narrowed, IsBehindWords, toInt64?, small]

mutual

/-- Narrowing leaves data as it is when no integer in it lies behind the words. -/
theorem narrowed_eq_self_iff : (data : Json) →
    (data.narrowed = data ↔ ∀ number ∈ data.numbers, ¬ number.IsBehindWords)
  | .null | .bool _ | .string _ => by simp [narrowed, numbers]
  | .number _ => by simp [narrowed, numbers, Number.narrowed_eq_self_iff]
  | .array items => by simp [narrowed, numbers, narrowedItems_eq_self_iff items]
  | .object members => by simp [narrowed, numbers, narrowedMembers_eq_self_iff members]

theorem narrowedItems_eq_self_iff : (items : List Json) →
    (narrowedItems items = items ↔ ∀ number ∈ numbersOfItems items, ¬ number.IsBehindWords)
  | [] => by simp [narrowedItems, numbersOfItems]
  | item :: rest => by
      rw [narrowedItems, numbersOfItems, List.cons.injEq, List.forall_mem_append,
        narrowed_eq_self_iff item, narrowedItems_eq_self_iff rest]

theorem narrowedMembers_eq_self_iff : (members : List (String × Json)) →
    (narrowedMembers members = members ↔
      ∀ number ∈ numbersOfMembers members, ¬ number.IsBehindWords)
  | [] => by simp [narrowedMembers, numbersOfMembers]
  | (key, value) :: rest => by
      rw [narrowedMembers, numbersOfMembers, List.cons.injEq, List.forall_mem_append,
        ← narrowed_eq_self_iff value, narrowedMembers_eq_self_iff rest]
      simp

end

end Json

namespace Value

theorem toJson?_ofNumber (number : Json.Number) :
    (ofNumber number).toJson? = some (.number number.narrowed) := by
  unfold ofNumber Json.Number.narrowed
  cases own : number.toInt64? with
  | some word =>
      rw [Json.Number.eq_ofInt64 own]
      rfl
  | none => exact toJson?_float number.isFinite_toBinary64

mutual

/-- The value of data has the narrowed data for its JSON form. -/
theorem toJson?_ofJson : (data : Json) → (ofJson data).toJson? = some data.narrowed
  | .null | .bool _ | .string _ => rfl
  | .number number => toJson?_ofNumber number
  | .array items => by simp [ofJson, toJson?, Json.narrowed, toJsonItems?_ofJsonItems items]
  | .object members => by
      simp [ofJson, toJson?, Json.narrowed, toJsonEntries?_ofJsonMembers members]

theorem toJsonItems?_ofJsonItems : (items : List Json) →
    toJsonItems? (ofJsonItems items) = some (Json.narrowedItems items)
  | [] => rfl
  | item :: rest => by
      simp [ofJsonItems, toJsonItems?, Json.narrowedItems, toJson?_ofJson item,
        toJsonItems?_ofJsonItems rest]

theorem toJsonEntries?_ofJsonMembers : (members : List (String × Json)) →
    toJsonEntries? (ofJsonMembers members) = some (Json.narrowedMembers members)
  | [] => rfl
  | (key, value) :: rest => by
      simp [ofJsonMembers, toJsonEntries?, Json.narrowedMembers, toJson?_ofJson value,
        toJsonEntries?_ofJsonMembers rest]

end

/-- Nothing that JSON data has no counterpart of. -/
def IsPlain : Value → Prop
  | .null | .bool _ | .int _ | .string _ | .list _ | .map _ => True
  | .float value => value.isFinite = true
  | .object _ | .enumCase .. | .dateTime .. | .host .. => False

theorem exists_items_ofJson {values : List Value}
    (each : ∀ value ∈ values, ∃ form, value.toJson? = some form ∧ ofJson form = value) :
    ∃ items, toJsonItems? values = some items ∧ ofJsonItems items = values := by
  induction values with
  | nil => exact ⟨[], rfl, rfl⟩
  | cons value rest ih =>
      obtain ⟨here, later⟩ := List.forall_mem_cons.mp each
      obtain ⟨form, shows, same⟩ := here
      obtain ⟨items, others, equals⟩ := ih later
      exact ⟨form :: items, by simp [toJsonItems?, shows, others],
        by rw [ofJsonItems, same, equals]⟩

theorem exists_members_ofJson {entries : List (String × Value)}
    (each : ∀ value ∈ entries.map Prod.snd,
      ∃ form, value.toJson? = some form ∧ ofJson form = value) :
    ∃ members, toJsonEntries? entries = some members ∧ ofJsonMembers members = entries := by
  induction entries with
  | nil => exact ⟨[], rfl, rfl⟩
  | cons entry rest ih =>
      obtain ⟨here, later⟩ := List.forall_mem_cons.mp each
      obtain ⟨form, shows, same⟩ := here
      obtain ⟨members, others, equals⟩ := ih later
      exact ⟨(entry.1, form) :: members, by simp [toJsonEntries?, shows, others],
        by rw [ofJsonMembers, same, equals]⟩

/-- A plain value is the value of its JSON form. -/
theorem exists_form_of_plain {value : Value} (plain : value.Everywhere IsPlain) :
    ∃ form, value.toJson? = some form ∧ ofJson form = value := by
  induction plain with
  | @intro value here inside ih =>
      cases value with
      | null | bool | string => exact ⟨_, rfl, rfl⟩
      | int word =>
          refine ⟨.ofInt64 word, rfl, ?_⟩
          simp [Json.ofInt64, ofJson, ofNumber, Json.Number.toInt64?_ofInt64]
      | float value => exact ⟨_, toJson?_float here, rfl⟩
      | list items =>
          obtain ⟨forms, shown, same⟩ : ∃ forms, toJsonItems? items = some forms ∧
            ofJsonItems forms = items := exists_items_ofJson ih
          exact ⟨.array forms, by simp [toJson?, shown], by rw [ofJson, same]⟩
      | map entries =>
          obtain ⟨forms, shown, same⟩ := exists_members_ofJson ih
          exact ⟨.object forms, by simp [toJson?, shown], by rw [ofJson, same]⟩
      | object | enumCase | dateTime | host => exact here.elim

end Value

namespace Codec

variable {codec : Codec}

theorem encode_builtIn_eq_ok_iff {kind : BuiltIn} {value : Value} {wire : Json} :
    codec.encode (.builtIn kind) value = .ok wire ↔
      0 < codec.options.maxDepth ∧ encodePrimitive? kind value = some wire := by
  rw [encode_eq_ok_iff]
  cases codec.options.maxDepth with
  | zero => exact iff_of_false not_encodes_zero fun both => absurd both.1 (Nat.lt_irrefl 0)
  | succ levels =>
      exact encodes_builtIn_iff.trans (and_iff_right (Nat.succ_pos levels)).symm

/-- Data that is taken as it is, is given back narrowed.  So it comes back as it was exactly when no
integer in it lies behind the signed words.  Every plain value is the value of its JSON form. -/
theorem mixed_round_trip (deep : 0 < codec.options.maxDepth) :
    (∀ wire : Json, codec.decode (.builtIn .mixed) wire = .ok (.ofJson wire) ∧
      codec.encode (.builtIn .mixed) (.ofJson wire) = .ok wire.narrowed ∧
        (Value.ofJson wire).toJson? = some wire.narrowed ∧
          ((Value.ofJson wire).toJson? = some wire ↔
            ∀ number ∈ wire.numbers, ¬ number.IsBehindWords)) ∧
    ∀ value : Value, value.Everywhere Value.IsPlain →
      ∃ form, value.toJson? = some form ∧ Value.ofJson form = value := by
  refine ⟨fun wire => ?_, fun value => Value.exists_form_of_plain⟩
  have shown := Value.toJson?_ofJson wire
  refine ⟨decode_builtIn_eq_ok_iff.mpr ⟨deep, rfl⟩,
    encode_builtIn_eq_ok_iff.mpr ⟨deep, shown⟩, shown, ?_⟩
  rw [shown, Option.some.injEq]
  exact Json.narrowed_eq_self_iff wire

def nestedData : Json :=
  .object [("a", .array [.ofInt64 (-1), .null]), ("b", .bool true)]

theorem mixed_round_trip_of_nestedData :
    0 < ({ types := {} } : Codec).options.maxDepth ∧
      ({ types := {} } : Codec).encode (.builtIn .mixed) (.ofJson nestedData) = .ok nestedData := by
  have deep : 0 < ({ types := {} } : Codec).options.maxDepth := by decide
  obtain ⟨-, encoded, -, -⟩ := (mixed_round_trip deep).1 nestedData
  exact ⟨deep, encoded⟩

/-- An integer behind the words comes back as a double. -/
theorem large_integer_changes :
    (Value.ofJson (.number (.integer 9223372036854775809 (by decide)))).toJson? ≠
      some (.number (.integer 9223372036854775809 (by decide))) := by
  rw [Value.toJson?_ofJson]
  exact nofun

end Codec

end Schemata
