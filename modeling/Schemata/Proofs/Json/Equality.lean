import Mathlib.Data.List.Forall2
import Schemata.Value

/-!
# Equal JSON data

JSON data is compared member by member, and doubles are compared as numbers.  A value shows as some
data when its JSON form is equal to that data.
-/

namespace Schemata

open List (Forall₂)

/-! ## Doubles -/

namespace Binary64

theorem numEq_self_of_isFinite {value : Binary64} (finite : value.isFinite = true) :
    value.numEq value = true := by
  cases value with
  | finite negative mantissa exponent canonical => simp [numEq]
  | nan | infinite => cases finite

theorem isFinite_of_numEq {left right : Binary64} (equal : left.numEq right = true)
    (finite : left.isFinite = true) : right.isFinite = true := by
  cases left with
  | nan | infinite => cases finite
  | finite negative mantissa exponent canonical =>
      cases right with
      | nan | infinite => cases equal
      | finite => rfl

/-- Of equal doubles that are no zeros, neither has a sign of its own. -/
theorem eq_of_numEq {left right : Binary64} (equal : left.numEq right = true)
    (nonzero : right.numEq (zero false) = false) : left = right := by
  cases left with
  | nan => cases equal
  | infinite negative =>
      cases right with
      | nan | finite => cases equal
      | infinite negative' => exact congrArg infinite (eq_of_beq equal)
  | finite negative mantissa exponent canonical =>
      cases right with
      | nan | infinite => cases equal
      | finite negative' mantissa' exponent' canonical' =>
          simp only [numEq, Bool.and_eq_true, Bool.or_eq_true, beq_iff_eq] at equal
          obtain ⟨⟨rfl, rfl⟩, rfl | none⟩ := equal
          · rfl
          · subst none
            have least : exponent = 0 := by
              rcases canonical'.2.1 with least | wide
              · exact least
              · exact absurd wide (by decide)
            subst least
            simp [numEq, zero] at nonzero

theorem eq_zero_of_numEq {value : Binary64} (equal : value.numEq (zero false) = true) :
    ∃ negative, value = zero negative := by
  cases value with
  | nan | infinite => cases equal
  | finite negative mantissa exponent canonical =>
      simp only [numEq, zero, Bool.and_eq_true, beq_iff_eq] at equal
      obtain ⟨⟨rfl, rfl⟩, _⟩ := equal
      exact ⟨negative, rfl⟩

theorem numEq_comm (left right : Binary64) : left.numEq right = right.numEq left := by
  cases left with
  | nan => cases right <;> rfl
  | infinite negative =>
      cases right with
      | infinite negative' => exact Bool.beq_comm
      | nan | finite => rfl
  | finite negative mantissa exponent canonical =>
      cases right with
      | nan | infinite => rfl
      | finite negative' mantissa' exponent' canonical' =>
          rw [Bool.eq_iff_iff]
          simp only [numEq, Bool.and_eq_true, Bool.or_eq_true, beq_iff_eq]
          constructor
          · rintro ⟨⟨rfl, rfl⟩, same⟩
            exact ⟨⟨rfl, rfl⟩, same.imp Eq.symm id⟩
          · rintro ⟨⟨rfl, rfl⟩, same⟩
            exact ⟨⟨rfl, rfl⟩, same.imp Eq.symm id⟩

/-- Being equal to one zero is being equal to the other one. -/
theorem numEq_zero (value : Binary64) (negative : Bool) :
    value.numEq (zero negative) = value.numEq (zero false) := by
  cases value with
  | nan | infinite => rfl
  | finite sign mantissa exponent canonical =>
      cases mantissa with
      | zero => simp [numEq, zero]
      | succ mantissa => rfl

theorem numEq_trans {first second third : Binary64} (one : first.numEq second = true)
    (two : second.numEq third = true) : first.numEq third = true := by
  cases isZero : second.numEq (zero false) with
  | false =>
      obtain rfl := eq_of_numEq one isZero
      exact two
  | true =>
      obtain ⟨negative, rfl⟩ := eq_zero_of_numEq isZero
      rw [numEq_zero] at one
      obtain ⟨negative', rfl⟩ := eq_zero_of_numEq one
      rw [numEq_comm, numEq_zero] at two
      rw [numEq_comm, numEq_zero]
      exact two

end Binary64

/-! ## Data -/

namespace Json

def Number.isEqual : Number → Number → Bool
  | .integer left _, .integer right _ => left == right
  | .float left _, .float right _ => left.numEq right
  | _, _ => false

mutual

/-- Whether two pieces of data are equal, with doubles compared as numbers. -/
def isEqual : Json → Json → Bool
  | .null, .null => true
  | .bool left, .bool right => left == right
  | .number left, .number right => left.isEqual right
  | .string left, .string right => left == right
  | .array left, .array right => areEqualItems left right
  | .object left, .object right => areEqualMembers left right
  | _, _ => false

def areEqualItems : List Json → List Json → Bool
  | [], [] => true
  | left :: lefts, right :: rights => isEqual left right && areEqualItems lefts rights
  | _, _ => false

def areEqualMembers : List (String × Json) → List (String × Json) → Bool
  | [], [] => true
  | (key, left) :: lefts, (key', right) :: rights =>
      key == key' && isEqual left right && areEqualMembers lefts rights
  | _, _ => false

end

attribute [simp] isEqual areEqualItems areEqualMembers

theorem Number.isEqual_self (number : Number) : number.isEqual number = true := by
  cases number with
  | integer value fits => simp [isEqual]
  | float value finite => exact Binary64.numEq_self_of_isFinite finite

mutual

/-- JSON data holds finite doubles only, so it is equal to itself. -/
theorem isEqual_self : (data : Json) → isEqual data data = true
  | .null => rfl
  | .bool value => by simp
  | .number value => value.isEqual_self
  | .string value => by simp
  | .array items => areEqualItems_self items
  | .object members => areEqualMembers_self members

theorem areEqualItems_self : (items : List Json) → areEqualItems items items = true
  | [] => rfl
  | item :: rest => by simp [isEqual_self item, areEqualItems_self rest]

theorem areEqualMembers_self :
    (members : List (String × Json)) → areEqualMembers members members = true
  | [] => rfl
  | (key, value) :: rest => by
      simp [isEqual_self value, areEqualMembers_self rest]

end

end Json

/-! ## The JSON form of values -/

namespace Value

/-- The JSON form of a value is equal to some data. -/
def ShowsAs (value : Value) (data : Json) : Prop :=
  ∃ form, value.toJson? = some form ∧ data.isEqual form = true

attribute [simp] toJson? toJsonItems? toJsonEntries?

theorem showsAs_of_toJson? {value : Value} {data : Json} (form : value.toJson? = some data) :
    value.ShowsAs data :=
  ⟨data, form, data.isEqual_self⟩

/-- A finite double has a JSON form. -/
theorem toJson?_float {value : Binary64} (finite : value.isFinite = true) :
    (Value.float value).toJson? = some (.number (.float value finite)) := by
  simp [Json.Number.ofBinary64?, finite]

theorem toJsonItems?_of_showsAs {values : List Value} {items : List Json}
    (shown : Forall₂ ShowsAs values items) :
    ∃ forms, toJsonItems? values = some forms ∧ Json.areEqualItems items forms = true := by
  induction shown with
  | nil => exact ⟨[], rfl, rfl⟩
  | cons here later ih =>
      obtain ⟨form, shows, equal⟩ := here
      obtain ⟨forms, others, equals⟩ := ih
      refine ⟨form :: forms, ?_, ?_⟩
      · simp [shows, others]
      · simp [equal, equals]

theorem showsAs_list {values : List Value} {items : List Json}
    (shown : Forall₂ ShowsAs values items) : (Value.list values).ShowsAs (.array items) := by
  obtain ⟨forms, shows, equal⟩ := toJsonItems?_of_showsAs shown
  exact ⟨.array forms, by simp [shows], equal⟩

theorem toJsonEntries?_of_showsAs {entries : List (String × Value)}
    {members : List (String × Json)}
    (shown : Forall₂ (fun entry member => entry.1 = member.1 ∧ entry.2.ShowsAs member.2)
      entries members) :
    ∃ forms, toJsonEntries? entries = some forms ∧ Json.areEqualMembers members forms = true := by
  induction shown with
  | nil => exact ⟨[], rfl, rfl⟩
  | @cons entry member entries members here later ih =>
      obtain ⟨name, form, shows, equal⟩ := here
      obtain ⟨forms, others, equals⟩ := ih
      refine ⟨(entry.1, form) :: forms, ?_, ?_⟩
      · simp [shows, others]
      · simp [name, equal, equals]

theorem toJsonItems?_eq_some_iff {values : List Value} {items : List Json} :
    toJsonItems? values = some items ↔
      Forall₂ (fun value item => value.toJson? = some item) values items := by
  induction values generalizing items with
  | nil =>
      rw [toJsonItems?, List.forall₂_nil_left_iff]
      exact ⟨fun same => (Option.some.inj same).symm, fun same => congrArg some same.symm⟩
  | cons value rest ih =>
      simp only [toJsonItems?, Option.bind_eq_bind, Option.bind_eq_some_iff, ih,
        List.forall₂_cons_left_iff]
      constructor
      · rintro ⟨item, here, others, later, same⟩
        exact ⟨item, others, here, later, (Option.some.inj same).symm⟩
      · rintro ⟨item, others, here, later, rfl⟩
        exact ⟨item, here, others, later, rfl⟩

theorem toJsonEntries?_eq_some_iff {entries : Dict Value} {members : Dict Json} :
    toJsonEntries? entries = some members ↔
      Forall₂ (fun entry member => entry.1 = member.1 ∧ entry.2.toJson? = some member.2)
        entries members := by
  induction entries generalizing members with
  | nil =>
      rw [toJsonEntries?, List.forall₂_nil_left_iff]
      exact ⟨fun same => (Option.some.inj same).symm, fun same => congrArg some same.symm⟩
  | cons entry rest ih =>
      obtain ⟨key, value⟩ := entry
      simp only [toJsonEntries?, Option.bind_eq_bind, Option.bind_eq_some_iff, ih,
        List.forall₂_cons_left_iff]
      constructor
      · rintro ⟨form, here, others, later, same⟩
        exact ⟨(key, form), others, ⟨rfl, here⟩, later, (Option.some.inj same).symm⟩
      · rintro ⟨member, others, ⟨rfl, here⟩, later, rfl⟩
        exact ⟨member.2, here, others, later, rfl⟩

/-- The entries of maps and objects show alike. -/
theorem showsAs_entries {value : Value} {entries : Dict Value} {members : Dict Json}
    (struct : value = .map entries ∨ value = .object entries)
    (shown : Forall₂ (fun entry member => entry.1 = member.1 ∧ entry.2.ShowsAs member.2)
      entries members) : value.ShowsAs (.object members) := by
  obtain ⟨forms, shows, equal⟩ := toJsonEntries?_of_showsAs shown
  refine ⟨.object forms, ?_, equal⟩
  rcases struct with rfl | rfl
  · simp [shows]
  · simp [shows]

/-- What shows as a list of members has the keys of the members. -/
theorem keys_of_toJsonEntries? {entries : List (String × Value)}
    {members forms : List (String × Json)} (shows : toJsonEntries? entries = some forms)
    (equal : Json.areEqualMembers members forms = true) :
    entries.map Prod.fst = members.map Prod.fst := by
  induction entries generalizing members forms with
  | nil =>
      cases shows
      cases members with
      | nil => rfl
      | cons => cases equal
  | cons entry rest ih =>
      obtain ⟨key, value⟩ := entry
      simp only [toJsonEntries?, Option.bind_eq_bind, Option.bind_eq_some_iff] at shows
      obtain ⟨form, _, others, later, same⟩ := shows
      cases same
      cases members with
      | nil => cases equal
      | cons member members =>
          simp only [Json.areEqualMembers, Bool.and_eq_true, beq_iff_eq] at equal
          rw [List.map_cons, List.map_cons, ih later equal.2, equal.1.1]

/-- The entries of a value that shows as an object have the keys of its members. -/
theorem keys_of_showsAs {value : Value} {entries : Dict Value} {members : Dict Json}
    (fields : value.properties? = some entries) (shown : value.ShowsAs (.object members)) :
    entries.map Prod.fst = members.map Prod.fst := by
  obtain ⟨form, shows, equal⟩ := shown
  cases value with
  | map found | object found =>
      obtain rfl := Option.some.inj fields
      rw [toJson?] at shows
      obtain ⟨forms, inside, rfl⟩ := Option.map_eq_some_iff.mp shows
      exact keys_of_toJsonEntries? inside equal
  | _ => cases fields

end Value

end Schemata
