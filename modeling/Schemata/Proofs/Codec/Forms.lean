import Schemata.Codec.Decode
import Schemata.Proofs.Binary64.Rounding
import Schemata.Proofs.Json.Equality
import Schemata.Proofs.Moment.Formats

/-!
# Values with a JSON form

A value has a JSON form exactly if none of its parts is an instance, a double that is not finite or
a moment without an RFC 3339 text.  Along a node without casts data decodes to values without
instances, whose doubles are finite and whose moments have been read in a format of the node.
-/

namespace Schemata

namespace Value

/-! ## Parts -/

/-- The direct parts of a value, in order.  An instance keeps its fields to itself. -/
def parts : Value → List Value
  | .list items => items
  | .map entries => entries.map Prod.snd
  | .object entries => entries.map Prod.snd
  | _ => []

theorem sizeOf_lt_of_mem_parts {value part : Value} (member : part ∈ value.parts) :
    sizeOf part < sizeOf value := by
  cases value with
  | list items =>
      have smaller : sizeOf part < sizeOf items := List.sizeOf_lt_of_mem member
      simp only [list.sizeOf_spec]
      omega
  | map entries | object entries =>
      obtain ⟨entry, inside, rfl⟩ := List.mem_map.mp member
      have smaller := List.sizeOf_lt_of_mem inside
      cases entry
      simp only [map.sizeOf_spec, object.sizeOf_spec, Prod.mk.sizeOf_spec] at smaller ⊢
      omega
  | _ => cases member

/-- What passes from the parts of a value to the value holds of every value. -/
theorem induction_on_parts {motive : Value → Prop}
    (step : ∀ value, (∀ part ∈ value.parts, motive part) → motive value) (value : Value) :
    motive value :=
  step value fun part _ => induction_on_parts step part
termination_by sizeOf value
decreasing_by exact sizeOf_lt_of_mem_parts ‹_›

/-- A property holds of a value and of everything in it. -/
inductive Everywhere (holds : Value → Prop) : Value → Prop where
  | intro {value : Value} (here : holds value)
      (inside : ∀ part ∈ value.parts, Everywhere holds part) : Everywhere holds value

namespace Everywhere

variable {holds weaker : Value → Prop} {value part : Value}

theorem leaf (here : holds value) (alone : value.parts = []) : Everywhere holds value := by
  refine .intro here fun part inside => ?_
  rw [alone] at inside
  cases inside

theorem here (everywhere : Everywhere holds value) : holds value := by
  cases everywhere with
  | intro here _ => exact here

theorem of_mem_parts (everywhere : Everywhere holds value) (member : part ∈ value.parts) :
    Everywhere holds part := by
  cases everywhere with
  | intro _ inside => exact inside _ member

theorem imp (implies : ∀ value, holds value → weaker value) (everywhere : Everywhere holds value) :
    Everywhere weaker value := by
  induction everywhere with
  | intro here _ ih => exact .intro (implies _ here) ih

theorem and (everywhere : Everywhere holds value) (everywhere' : Everywhere weaker value) :
    Everywhere (fun value => holds value ∧ weaker value) value := by
  induction everywhere with
  | intro here _ ih =>
      refine .intro ⟨here, everywhere'.here⟩ fun part member => ?_
      exact ih part member (everywhere'.of_mem_parts member)

/-- Properties that agree wherever a third one holds, hold throughout the same values of it. -/
theorem congr {first second : Value → Prop} (everywhere : Everywhere holds value)
    (agree : ∀ value, holds value → (first value ↔ second value)) :
    Everywhere first value ↔ Everywhere second value := by
  constructor
  · intro others
    exact (everywhere.and others).imp fun part both => (agree part both.1).mp both.2
  · intro others
    exact (everywhere.and others).imp fun part both => (agree part both.1).mpr both.2

end Everywhere

def isInstance : Value → Bool
  | .host .. => true
  | _ => false

/-- No instance occurs in the value. -/
def InstanceFree : Value → Prop :=
  Everywhere fun value => value.isInstance = false

/-- The parts of a value that shows its entries are the values in them. -/
theorem mem_parts_of_properties? {value part : Value} {entries : Dict Value}
    (shown : value.properties? = some entries) :
    part ∈ value.parts ↔ part ∈ entries.map Prod.snd := by
  cases value with
  | map found | object found =>
      cases shown
      exact Iff.rfl
  | _ => cases shown

theorem InstanceFree.structValue {value : Value} {entries : Dict Value} (kind : StructKind)
    (free : value.InstanceFree) (shown : value.properties? = some entries) :
    (kind.value entries).InstanceFree := by
  refine .intro (by cases kind <;> rfl) fun part member => free.of_mem_parts ?_
  rw [mem_parts_of_properties? shown]
  cases kind <;> exact member

theorem mem_parts_structValue {kind : StructKind} {entries : Dict Value} {part : Value} :
    part ∈ (kind.value entries).parts ↔ part ∈ entries.map Prod.snd := by
  cases kind <;> exact Iff.rfl

/-! ## JSON forms -/

/-- The value has a JSON form as far as it is up to the value itself and not to its parts. -/
def IsPrintable : Value → Prop
  | .float value => value.isFinite = true
  | .dateTime _ moment => moment.IsRfc3339
  | .host .. => False
  | _ => True

theorem exists_toJsonItems?_iff {items : List Value} :
    (∃ forms, toJsonItems? items = some forms) ↔
      ∀ item ∈ items, ∃ form, item.toJson? = some form := by
  induction items with
  | nil => simp [toJsonItems?]
  | cons item rest ih =>
      rw [List.forall_mem_cons, ← ih]
      constructor
      · rintro ⟨forms, shown⟩
        obtain ⟨first, here, shown⟩ := Option.bind_eq_some_iff.mp shown
        obtain ⟨others, later, _⟩ := Option.bind_eq_some_iff.mp shown
        exact ⟨⟨first, here⟩, others, later⟩
      · rintro ⟨⟨first, here⟩, others, later⟩
        exact ⟨first :: others, by simp [toJsonItems?, here, later]⟩

theorem exists_toJsonEntries?_iff {entries : List (String × Value)} :
    (∃ forms, toJsonEntries? entries = some forms) ↔
      ∀ part ∈ entries.map Prod.snd, ∃ form, part.toJson? = some form := by
  induction entries with
  | nil => simp [toJsonEntries?]
  | cons entry rest ih =>
      obtain ⟨key, value⟩ := entry
      rw [List.map_cons, List.forall_mem_cons, ← ih]
      constructor
      · rintro ⟨forms, shown⟩
        obtain ⟨first, here, shown⟩ := Option.bind_eq_some_iff.mp shown
        obtain ⟨others, later, _⟩ := Option.bind_eq_some_iff.mp shown
        exact ⟨⟨first, here⟩, others, later⟩
      · rintro ⟨⟨first, here⟩, others, later⟩
        exact ⟨(key, first) :: others, by simp [toJsonEntries?, here, later]⟩

/-- A value has a JSON form if its parts have one and nothing is wrong with the value itself. -/
theorem exists_toJson?_iff_parts {value : Value} :
    (∃ form, value.toJson? = some form) ↔
      value.IsPrintable ∧ ∀ part ∈ value.parts, ∃ form, part.toJson? = some form := by
  cases value with
  | null | bool | int | string | enumCase => simp [IsPrintable, parts]
  | float value =>
      by_cases finite : value.isFinite = true
      · simp [Json.Number.ofBinary64?, IsPrintable, parts, finite]
      · simp [Json.Number.ofBinary64?, IsPrintable, finite]
  | list items =>
      have inside := @exists_toJsonItems?_iff items
      simpa [IsPrintable, parts] using inside
  | map entries | object entries =>
      have inside := @exists_toJsonEntries?_iff entries
      simpa [IsPrintable, parts] using inside
  | dateTime className moment =>
      rw [IsPrintable, ← Moment.exists_writeRfc3339_iff]
      cases written : moment.writeRfc3339 <;> simp [written, parts]
  | host className fields => simp [IsPrintable]

/-- A value has a JSON form exactly if nothing is wrong anywhere in it. -/
theorem exists_toJson?_iff {value : Value} :
    (∃ form, value.toJson? = some form) ↔ value.Everywhere IsPrintable := by
  induction value using induction_on_parts with
  | step value ih =>
      rw [exists_toJson?_iff_parts]
      constructor
      · rintro ⟨here, inside⟩
        exact .intro here fun part member => (ih part member).mp (inside part member)
      · intro everywhere
        refine ⟨everywhere.here, fun part member => ?_⟩
        exact (ih part member).mpr (everywhere.of_mem_parts member)

/-- Only null has null for its JSON form. -/
theorem toJson?_eq_null_iff {value : Value} : value.toJson? = some .null ↔ value = .null := by
  cases value with
  | dateTime className moment => cases written : moment.writeRfc3339 <;> simp [toJson?, written]
  | _ => simp [toJson?, Json.ofInt64]

/-- A value without a JSON form is shown as null, and no other value but null itself is. -/
theorem getD_toJson?_eq_null_iff {value : Value} :
    value.toJson?.getD .null = .null ↔ value = .null ∨ ¬ ∃ form, value.toJson? = some form := by
  rw [← toJson?_eq_null_iff]
  cases value.toJson? with
  | none => simp
  | some form => simp

/-- RFC 3339 can write every moment in the value. -/
def HasRfc3339Moments : Value → Prop :=
  Everywhere fun part => ∀ className moment, part = .dateTime className moment → moment.IsRfc3339

/-! ## Values that are read -/

/-- The value itself has been read: a finite double, a moment in a format of its class, and no
instance. -/
def IsRead (formats : String → DateTimeFormat → Prop) : Value → Prop
  | .float value => value.isFinite = true
  | .dateTime className moment =>
      ∃ format text, formats className format ∧ format.read text = .ok moment
  | .host .. => False
  | _ => True

variable {formats : String → DateTimeFormat → Prop}

theorem isInstance_of_isRead {value : Value} (read : value.IsRead formats) :
    value.isInstance = false := by
  cases value with
  | host => exact read.elim
  | _ => rfl

theorem isPrintable_iff_of_isRead {value : Value} (read : value.IsRead formats) :
    value.IsPrintable ↔
      ∀ className moment, value = .dateTime className moment → moment.IsRfc3339 := by
  cases value with
  | dateTime className moment =>
      constructor
      · rintro printable _ _ ⟨⟩
        exact printable
      · exact fun each => each className moment rfl
  | host className fields => exact read.elim
  | float value => exact ⟨fun _ => nofun, fun _ => read⟩
  | _ => exact ⟨fun _ => nofun, fun _ => trivial⟩

/-- What has been read has a JSON form exactly if RFC 3339 can write the moments in it. -/
theorem exists_toJson?_iff_of_isRead {value : Value} (read : value.Everywhere (IsRead formats)) :
    (∃ form, value.toJson? = some form) ↔ value.HasRfc3339Moments :=
  exists_toJson?_iff.trans (read.congr fun _ => isPrintable_iff_of_isRead)

/-- What is read can be printed where all formats read moments with an RFC 3339 text only. -/
theorem isPrintable_of_isRead (printable : ∀ className format text moment,
    formats className format → format.read text = .ok moment → moment.IsRfc3339) {value : Value}
    (read : value.IsRead formats) : value.IsPrintable := by
  cases value with
  | dateTime className moment =>
      obtain ⟨format, text, known, success⟩ := read
      exact printable _ _ _ _ known success
  | _ => exact read

mutual

/-- The value of JSON data has finite doubles in it, and no moments or instances. -/
theorem everywhere_isRead_ofJson : (data : Json) → (ofJson data).Everywhere (IsRead formats)
  | .null | .bool _ | .string _ => .leaf trivial rfl
  | .number number => by
      simp only [ofJson, ofNumber]
      cases number.toInt64? with
      | some value => exact .leaf trivial rfl
      | none => exact .leaf number.isFinite_toBinary64 rfl
  | .array items => .intro trivial (everywhere_isRead_ofJsonItems items)
  | .object members => .intro trivial (everywhere_isRead_ofJsonMembers members)

theorem everywhere_isRead_ofJsonItems : (items : List Json) →
    ∀ part ∈ ofJsonItems items, part.Everywhere (IsRead formats)
  | [] => fun _ nothing => nomatch nothing
  | item :: rest => List.forall_mem_cons.mpr
      ⟨everywhere_isRead_ofJson item, everywhere_isRead_ofJsonItems rest⟩

theorem everywhere_isRead_ofJsonMembers : (members : List (String × Json)) →
    ∀ part ∈ (ofJsonMembers members).map Prod.snd, part.Everywhere (IsRead formats)
  | [] => fun _ nothing => nomatch nothing
  | (_, value) :: rest => List.forall_mem_cons.mpr
      ⟨everywhere_isRead_ofJson value, everywhere_isRead_ofJsonMembers rest⟩

end

/-- The value of JSON data has a JSON form. -/
theorem exists_toJson?_ofJson (data : Json) : ∃ form, (ofJson data).toJson? = some form := by
  have read : (ofJson data).Everywhere (IsRead fun _ _ => False) := everywhere_isRead_ofJson data
  refine exists_toJson?_iff.mpr (read.imp fun value => ?_)
  exact isPrintable_of_isRead fun _ _ _ _ unknown => unknown.elim

end Value

end Schemata
