import Mathlib.Data.List.Induction
import Mathlib.Data.String.Basic
import Schemata.Proofs.Dictionary
import Schemata.TypeRegistry

/-!
# Constants of a class

A registry that is filled step by step holds what was registered last.  Its constants stand in one
dictionary, under the name of their class and their own joined, and those of a class whose names
begin with a text stand together there.  So a single scan finds them all and no others, whatever
other names the names of classes begin.
-/

namespace Schemata

/-! ## Texts that begin alike -/

/-- Between a text and another one that begins with it, every text begins with it. -/
theorem isPrefix_of_between {start text other : List Char} (above : ¬ text < start)
    (below : text < other) (begins : start <+: other) : start <+: text := by
  induction start generalizing text other with
  | nil => exact List.nil_prefix
  | cons char rest ih =>
      obtain ⟨behind, rfl⟩ := begins
      cases text with
      | nil => exact absurd (List.nil_lt_cons char rest) above
      | cons first more =>
          rw [List.cons_lt_cons_iff, not_or] at above
          rw [List.cons_append, List.cons_lt_cons_iff] at below
          rcases below with less | ⟨rfl, below⟩
          · exact absurd less above.1
          · have rest_above : ¬ more < rest := fun less => above.2 ⟨rfl, less⟩
            exact List.cons_prefix_cons.mpr ⟨rfl, ih rest_above below (List.prefix_append _ _)⟩

/-- What stands behind a common beginning decides which text is smaller. -/
theorem lt_of_append_lt {start text other : List Char} (less : start ++ text < start ++ other) :
    text < other := by
  induction start with
  | nil => exact less
  | cons char rest ih =>
      rw [List.cons_append, List.cons_append, List.cons_lt_cons_iff] at less
      rcases less with absurd | ⟨_, less⟩
      · exact (lt_irrefl char absurd).elim
      · exact ih less

/-! ## Scans -/

section

variable {α : Type} {passed taken : α → Bool} {items : List α}

/-- Where what is taken stands in front, taking it one by one is choosing it. -/
theorem takeWhile_eq_filter
    (front : items.Pairwise fun first later => taken later = true → taken first = true) :
    items.takeWhile taken = items.filter taken := by
  induction items with
  | nil => rfl
  | cons item rest ih =>
      obtain ⟨here, later⟩ := List.pairwise_cons.mp front
      by_cases first : taken item = true
      · rw [List.takeWhile_cons_of_pos first, List.filter_cons_of_pos first, ih later]
      · rw [List.takeWhile_cons_of_neg first, List.filter_cons_of_neg first]
        refine (List.filter_eq_nil_iff.mpr fun other among => ?_).symm
        exact mt (here other among) first

/-- Where what is passed over stands in front, and what is taken right behind it, a scan is a
choice. -/
theorem takeWhile_dropWhile_eq_filter
    (front : items.Pairwise fun first later => passed later = true → passed first = true)
    (together : items.Pairwise fun first later =>
      taken later = true → passed first = true ∨ taken first = true)
    (apart : ∀ item ∈ items, taken item = true → ¬ passed item = true) :
    (items.dropWhile passed).takeWhile taken = items.filter taken := by
  induction items with
  | nil => rfl
  | cons item rest ih =>
      obtain ⟨not_both, apart⟩ := List.forall_mem_cons.mp apart
      by_cases skipped : passed item = true
      · rw [List.dropWhile_cons_of_pos skipped,
          List.filter_cons_of_neg fun here => not_both here skipped]
        exact ih (List.pairwise_cons.mp front).2 (List.pairwise_cons.mp together).2 apart
      · rw [List.dropWhile_cons_of_neg skipped]
        apply takeWhile_eq_filter
        -- Behind an item that is not passed over none is.
        have reached : ∀ first ∈ item :: rest, ¬ passed first = true := by
          intro first among
          rcases List.mem_cons.mp among with rfl | among
          · exact skipped
          · exact mt ((List.pairwise_cons.mp front).1 first among) skipped
        refine together.imp_of_mem fun among _ follows here => ?_
        exact (follows here).resolve_left (reached _ among)

end

/-- In ascending order of the keys, a scan finds exactly those that begin with a text. -/
theorem Dict.scan_eq_filter {α : Type} {dict : Dict α}
    (ascending : (dict.map Prod.fst).Pairwise (· < ·)) (start : String) :
    ((dict.dropWhile fun entry => entry.1 < start).takeWhile fun entry =>
        start.toList.isPrefixOf entry.1.toList) =
      dict.filter fun entry => start.toList.isPrefixOf entry.1.toList := by
  rw [List.pairwise_map] at ascending
  apply takeWhile_dropWhile_eq_filter
  · refine ascending.imp fun {first later} below passed => ?_
    rw [decide_eq_true_eq] at passed ⊢
    exact String.lt_trans below passed
  · refine ascending.imp fun {first later} below taken => ?_
    rw [decide_eq_true_eq, List.isPrefixOf_iff_prefix] at *
    by_cases passed : first.1 < start
    · exact .inl passed
    · rw [String.lt_iff_toList_lt] at passed below
      exact .inr (isPrefix_of_between passed below taken)
  · intro entry _ taken passed
    rw [List.isPrefixOf_iff_prefix] at taken
    rw [decide_eq_true_eq, String.lt_iff_toList_lt] at passed
    exact taken.le passed

namespace TypeRegistry

variable {registry : TypeRegistry} {className start name : String}

/-! ## Keys of constants -/

theorem toList_constantKey (className name : String) :
    (constantKey className name).toList = className.toList ++ ("::".toList ++ name.toList) := by
  rw [constantKey, String.toList_append, String.toList_append, List.append_assoc]

/-- The keys that begin with a key are those of the names that begin with its name. -/
theorem isPrefix_toList_constantKey_iff {key : String} :
    (constantKey className start).toList <+: key.toList ↔
      ∃ name, key = constantKey className name ∧ start.toList <+: name.toList := by
  constructor
  · rintro ⟨behind, same⟩
    refine ⟨String.ofList (start.toList ++ behind), ?_, ?_⟩
    · apply String.toList_injective
      simp only [← same, toList_constantKey, String.toList_ofList, List.append_assoc]
    · rw [String.toList_ofList]
      exact List.prefix_append _ _
  · rintro ⟨name, rfl, begins⟩
    rw [toList_constantKey, toList_constantKey, List.prefix_append_right_inj,
      List.prefix_append_right_inj]
    exact begins

/-- The name of a constant stands behind its class and the colons. -/
theorem ofList_drop_constantKey (className name : String) :
    String.ofList ((constantKey className name).toList.drop (constantKey className "").length) =
      name := by
  have skipped : (constantKey className "").length = (className.toList ++ "::".toList).length := by
    rw [← String.length_toList, toList_constantKey, String.toList_empty, List.append_nil]
  rw [skipped, toList_constantKey, ← List.append_assoc, List.drop_left, String.ofList_toList]

theorem constantKey_lt_iff {other : String} :
    constantKey className name < constantKey className other ↔ name < other := by
  rw [String.lt_iff_toList_lt, String.lt_iff_toList_lt, toList_constantKey, toList_constantKey]
  constructor
  · exact fun less => lt_of_append_lt (lt_of_append_lt less)
  · exact fun less => List.append_left_lt (List.append_left_lt less)

/-- Where the names of classes hold no colon, a key tells its class. -/
theorem constantKey_inj {className' name' : String} (undivided : ':' ∉ className.toList)
    (undivided' : ':' ∉ className'.toList) :
    constantKey className name = constantKey className' name' ↔
      className = className' ∧ name = name' := by
  constructor
  · intro same
    have texts := congrArg String.toList same
    rw [toList_constantKey, toList_constantKey] at texts
    have front {text behind : List Char} (undivided : ':' ∉ text) :
        (text ++ ("::".toList ++ behind)).takeWhile (· != ':') = text := by
      rw [List.takeWhile_append_of_pos]
      · simp
      · intro char among
        rw [bne_iff_ne]
        rintro rfl
        exact undivided among
    have classes := congrArg (List.takeWhile (· != ':')) texts
    rw [front undivided, front undivided'] at classes
    rw [classes, List.append_cancel_left_eq, List.append_cancel_left_eq] at texts
    exact ⟨String.toList_injective classes, String.toList_injective texts⟩
  · rintro ⟨rfl, rfl⟩
    rfl

/-! ## Constants that begin with a text -/

section

variable (ascending : (registry.constants.map Prod.fst).Pairwise (· < ·))
include ascending

/-- The constants that are found are those of the class whose names begin with the text. -/
theorem mem_constantsFrom_iff {value : Literal} :
    (name, value) ∈ registry.constantsFrom className start ↔
      start.toList <+: name.toList ∧ registry.constant? className name = some value := by
  simp only [constantsFrom, Dict.scan_eq_filter ascending, List.mem_map, List.mem_filter,
    List.isPrefixOf_iff_prefix, isPrefix_toList_constantKey_iff]
  constructor
  · rintro ⟨⟨_, _⟩, ⟨among, found, rfl, begins⟩, same⟩
    rw [ofList_drop_constantKey] at same
    obtain ⟨rfl, rfl⟩ := Prod.ext_iff.mp same
    exact ⟨begins, Dict.get?_of_mem (Dict.nodup_of_ascending ascending) among⟩
  · rintro ⟨begins, registered⟩
    refine ⟨(constantKey className name, value), ⟨?_, name, rfl, begins⟩, ?_⟩
    · exact Dict.mem_of_get?_eq_some registered
    · rw [ofList_drop_constantKey]

/-- Constants are found in the order of their names. -/
theorem ascending_constantsFrom :
    ((registry.constantsFrom className start).map Prod.fst).Pairwise (· < ·) := by
  simp only [constantsFrom, Dict.scan_eq_filter ascending, List.map_map, List.pairwise_map]
  rw [List.pairwise_map] at ascending
  refine (ascending.filter _).imp_of_mem fun {first later} among among' below => ?_
  rw [List.mem_filter, List.isPrefixOf_iff_prefix, isPrefix_toList_constantKey_iff] at among among'
  obtain ⟨_, name, same, _⟩ := among
  obtain ⟨_, other, same', _⟩ := among'
  rw [same, same', constantKey_lt_iff] at below
  rw [Function.comp_apply, Function.comp_apply, same, same', ofList_drop_constantKey,
    ofList_drop_constantKey]
  exact below

end

end TypeRegistry

/-! ## Registrations -/

/-- One step of filling a registry. -/
inductive Registration where
  | enumeration (name : String) (cases : List String)
  | constant (className name : String) (value : Literal)

namespace Registration

def cases? (name : String) : Registration → Option (List String)
  | .enumeration name' cases => if name = name' then some cases else none
  | .constant .. => none

def value? (className name : String) : Registration → Option Literal
  | .enumeration .. => none
  | .constant className' name' value =>
      if className = className' ∧ name = name' then some value else none

/-- The cases that an enum was given last. -/
def lastCases? (steps : List Registration) (name : String) : Option (List String) :=
  steps.reverse.findSome? (·.cases? name)

/-- The value that a constant of a class was given last. -/
def lastValue? (steps : List Registration) (className name : String) : Option Literal :=
  steps.reverse.findSome? (·.value? className name)

/-- No class that is given a constant has a colon in its name. -/
def Undivided (steps : List Registration) : Prop :=
  ∀ className name value, constant className name value ∈ steps → ':' ∉ className.toList

variable {steps : List Registration} {step : Registration} {className name : String}

/-- Whether a step gives no constant to a class with a colon in its name. -/
def isUndivided : Registration → Bool
  | .enumeration .. => true
  | .constant className .. => !className.toList.contains ':'

theorem undivided_iff : Undivided steps ↔ steps.all isUndivided = true := by
  rw [List.all_eq_true]
  constructor
  · intro undivided step among
    cases step with
    | enumeration => rfl
    | constant className name value =>
        rw [isUndivided, Bool.not_eq_true', ← Bool.not_eq_true, List.contains_iff_mem]
        exact undivided className name value among
  · intro each className name value among
    have here := each _ among
    rw [isUndivided, Bool.not_eq_true', ← Bool.not_eq_true, List.contains_iff_mem] at here
    exact here

instance : Decidable (Undivided steps) :=
  decidable_of_iff _ undivided_iff.symm

theorem lastCases?_concat :
    lastCases? (steps ++ [step]) name = (step.cases? name).or (lastCases? steps name) := by
  rw [lastCases?, List.reverse_concat, List.findSome?_cons, lastCases?]
  cases step.cases? name <;> rfl

theorem lastValue?_concat :
    lastValue? (steps ++ [step]) className name =
      (step.value? className name).or (lastValue? steps className name) := by
  rw [lastValue?, List.reverse_concat, List.findSome?_cons, lastValue?]
  cases step.value? className name <;> rfl

end Registration

namespace TypeRegistry

open Registration

def register (registry : TypeRegistry) : Registration → TypeRegistry
  | .enumeration name cases => registry.addEnum name cases
  | .constant className name value => registry.addConstant className name value

def ofRegistrations (steps : List Registration) : TypeRegistry :=
  steps.foldl register {}

variable {steps : List Registration} {className name : String}

theorem ofRegistrations_concat (step : Registration) :
    ofRegistrations (steps ++ [step]) = (ofRegistrations steps).register step := by
  rw [ofRegistrations, List.foldl_concat, ofRegistrations]

/-- An enum has the cases it was given last. -/
theorem enum?_ofRegistrations :
    (ofRegistrations steps).enum? name = lastCases? steps name := by
  induction steps using List.reverseRecOn with
  | nil => rfl
  | append_singleton steps step ih =>
      rw [ofRegistrations_concat, lastCases?_concat, ← ih]
      cases step with
      | constant => rfl
      | enumeration name' cases =>
          rw [register, addEnum, enum?, Dict.get?_insert, Registration.cases?]
          split <;> rfl

/-- A constant has the value it was given last. -/
theorem constant?_ofRegistrations (undivided : Undivided steps)
    (undivided' : ':' ∉ className.toList) :
    (ofRegistrations steps).constant? className name = lastValue? steps className name := by
  induction steps using List.reverseRecOn with
  | nil => rfl
  | append_singleton steps step ih =>
      have earlier : Undivided steps := fun className' name' value among =>
        undivided className' name' value (List.mem_append_left _ among)
      rw [ofRegistrations_concat, lastValue?_concat, ← ih earlier]
      cases step with
      | enumeration => rfl
      | constant className' name' value =>
          have here := undivided className' name' value List.mem_concat_self
          rw [register, addConstant, constant?, Dict.get?_insert, value?]
          simp only [constantKey_inj undivided' here]
          split <;> rfl

theorem ascending_constants_ofRegistrations :
    ((ofRegistrations steps).constants.map Prod.fst).Pairwise (· < ·) := by
  induction steps using List.reverseRecOn with
  | nil => exact List.Pairwise.nil
  | append_singleton steps step ih =>
      rw [ofRegistrations_concat]
      cases step with
      | enumeration => exact ih
      | constant className' name' value => exact Dict.ascending_insert ih _ value

end TypeRegistry

end Schemata
