import Mathlib.Data.List.Forall2
import Mathlib.Data.List.Perm.Subperm
import Schemata.Dict

/-!
# Laws of dictionaries

A dictionary is read through `get?`.  Putting a value under a key changes what is read under that
key and nothing else, whatever the order of the entries.
-/

namespace Schemata.Dict

universe u v

variable {α : Type u} {β : Type v}

@[simp]
theorem get?_nil (key : String) : get? ([] : Dict α) key = none := rfl

theorem get?_cons (entry : String × α) (rest : Dict α) (key : String) :
    get? (entry :: rest) key = if entry.1 = key then some entry.2 else get? rest key := by
  by_cases same : entry.1 = key <;> simp [get?, same]

/-- The value that is read stands under its key. -/
theorem mem_of_get?_eq_some {dict : Dict α} {key : String} {value : α}
    (found : get? dict key = some value) : (key, value) ∈ dict := by
  induction dict with
  | nil => simp at found
  | cons entry rest ih =>
      rw [get?_cons] at found
      split at found
      next same =>
        obtain rfl := Option.some.inj found
        subst same
        exact List.mem_cons_self
      next => exact List.mem_cons_of_mem _ (ih found)

/-- When no key occurs twice, every value stands under its key. -/
theorem get?_of_mem {dict : Dict α} (distinct : (dict.map Prod.fst).Nodup) {key : String}
    {value : α} (among : (key, value) ∈ dict) : get? dict key = some value := by
  induction dict with
  | nil => cases among
  | cons entry rest ih =>
      rw [List.map_cons, List.nodup_cons] at distinct
      rw [get?_cons]
      rcases List.mem_cons.mp among with rfl | there
      · exact if_pos rfl
      · rw [if_neg, ih distinct.2 there]
        intro same
        exact distinct.1 (same ▸ List.mem_map_of_mem (f := Prod.fst) there)

@[simp]
theorem get?_insert_self (dict : Dict α) (key : String) (value : α) :
    get? (insert dict key value) key = some value := by
  induction dict with
  | nil => simp [insert, get?_cons]
  | cons entry rest ih =>
      unfold insert
      split
      · simp [get?_cons]
      next differs =>
      split
      · simp [get?_cons]
      · rw [get?_cons, if_neg (Ne.symm differs), ih]

theorem get?_insert_of_ne (dict : Dict α) {key other : String} (value : α)
    (differs : other ≠ key) : get? (insert dict key value) other = get? dict other := by
  induction dict with
  | nil => simp [insert, get?_cons, Ne.symm differs]
  | cons entry rest ih =>
      unfold insert
      split
      next same => simp [get?_cons, ← same, Ne.symm differs]
      split
      · simp [get?_cons, Ne.symm differs]
      · rw [get?_cons, get?_cons, ih]

theorem get?_insert (dict : Dict α) (key other : String) (value : α) :
    get? (insert dict key value) other = if other = key then some value else get? dict other := by
  split
  next same => rw [same, get?_insert_self]
  next differs => exact get?_insert_of_ne dict value differs

/-- Of two values that are put under one key, the second one stays. -/
theorem insert_insert (dict : Dict α) (key : String) (first second : α) :
    insert (insert dict key first) key second = insert dict key second := by
  induction dict with
  | nil => simp [insert]
  | cons entry rest ih =>
      by_cases same : key = entry.1
      · simp [insert, same]
      · by_cases ahead : key < entry.1
        · simp [insert, same, ahead]
        · simp [insert, same, ahead, ih]

theorem contains_eq_isSome (dict : Dict α) (key : String) :
    contains dict key = (get? dict key).isSome := by
  induction dict with
  | nil => rfl
  | cons entry rest ih =>
      rw [get?_cons]
      change (entry.1 == key || contains rest key) = _
      rw [ih]
      by_cases same : entry.1 = key <;> simp [same]

theorem get?_eq_none_iff {dict : Dict α} {key : String} :
    get? dict key = none ↔ key ∉ dict.map Prod.fst := by
  induction dict with
  | nil => simp
  | cons entry rest ih =>
      rw [get?_cons, List.map_cons, List.mem_cons, not_or, ← ih]
      by_cases same : entry.1 = key
      · simp [same]
      · simp [same, Ne.symm same]

/-- Reading behind a list of entries falls back to the list after it. -/
theorem get?_append (dict more : Dict α) (key : String) :
    get? (dict ++ more) key = (get? dict key).or (get? more key) := by
  induction dict with
  | nil => simp
  | cons entry rest ih =>
      rw [List.cons_append, get?_cons, get?_cons, ih]
      split <;> simp

/-- Changing the values keeps the keys. -/
theorem get?_map (change : α → β) (dict : Dict α) (key : String) :
    get? (dict.map fun entry => (entry.1, change entry.2)) key = (get? dict key).map change := by
  induction dict with
  | nil => rfl
  | cons entry rest ih =>
      rw [List.map_cons, get?_cons, get?_cons, ih]
      split <;> simp

/-- Changing the values and putting one in can be done in either order. -/
theorem mapValues_insert (change : α → β) (dict : Dict α) (key : String) (value : α) :
    mapValues change (insert dict key value) =
      insert (mapValues change dict) key (change value) := by
  induction dict with
  | nil => rfl
  | cons entry rest ih =>
      have here : mapValues change (entry :: rest) =
          (entry.1, change entry.2) :: mapValues change rest := rfl
      rw [here]
      unfold insert
      split
      · rfl
      · split
        · rfl
        · exact congrArg (_ :: ·) ih

/-- Putting a value under a new key adds one entry. -/
theorem insert_perm_of_not_contains {dict : Dict α} {key : String} (value : α)
    (absent : contains dict key = false) : (insert dict key value).Perm ((key, value) :: dict) := by
  induction dict with
  | nil => exact List.Perm.refl _
  | cons entry rest ih =>
      change (entry.1 == key || contains rest key) = false at absent
      obtain ⟨differs, later⟩ := Bool.or_eq_false_iff.mp absent
      unfold insert
      rw [if_neg (Ne.symm (beq_eq_false_iff_ne.mp differs))]
      split
      · exact List.Perm.refl _
      · exact ((ih later).cons entry).trans (List.Perm.swap _ _ _)

/-- Every entry of a dictionary into which a value has been put was there before or is the new
one. -/
theorem mem_of_mem_insert {dict : Dict α} {key : String} {value : α} {entry : String × α}
    (member : entry ∈ insert dict key value) : entry = (key, value) ∨ entry ∈ dict := by
  induction dict with
  | nil => exact .inl (List.mem_singleton.mp member)
  | cons first rest ih =>
      unfold insert at member
      split at member
      · exact (List.mem_cons.mp member).imp id (List.mem_cons_of_mem _)
      · split at member
        · exact List.mem_cons.mp member
        · rcases List.mem_cons.mp member with rfl | later
          · exact .inr List.mem_cons_self
          · exact (ih later).imp id (List.mem_cons_of_mem _)

/-! ## Merging -/

theorem mem_of_mem_merge {dict update : Dict α} {entry : String × α}
    (member : entry ∈ merge dict update) : entry ∈ update ∨ entry ∈ dict := by
  induction update generalizing dict with
  | nil => exact .inr member
  | cons first rest ih =>
      rcases ih member with later | there
      · exact .inl (List.mem_cons_of_mem _ later)
      · rcases mem_of_mem_insert there with rfl | earlier
        · exact .inl List.mem_cons_self
        · exact .inr earlier

theorem get?_merge {update : Dict α} (distinct : (update.map Prod.fst).Nodup) (dict : Dict α)
    (key : String) : get? (merge dict update) key = (get? update key).or (get? dict key) := by
  induction update generalizing dict with
  | nil => rfl
  | cons entry rest ih =>
      obtain ⟨fresh, distinct⟩ := List.nodup_cons.mp distinct
      change get? (merge (insert dict entry.1 entry.2) rest) key = _
      rw [ih distinct, get?_insert, get?_cons]
      by_cases same : entry.1 = key
      · subst same
        simp [get?_eq_none_iff.mpr fresh]
      · simp [same, Ne.symm same]

theorem ascending_insert {dict : Dict α} (ascending : (dict.map Prod.fst).Pairwise (· < ·))
    (key : String) (value : α) : ((insert dict key value).map Prod.fst).Pairwise (· < ·) := by
  induction dict with
  | nil => simp [insert]
  | cons entry rest ih =>
      obtain ⟨first, later⟩ := List.pairwise_cons.mp ascending
      unfold insert
      split
      next same =>
        subst same
        exact ascending
      next differs =>
        split
        next ahead =>
          refine List.pairwise_cons.mpr ⟨fun other among => ?_, ascending⟩
          rcases List.mem_cons.mp among with rfl | among
          · exact ahead
          · exact String.lt_trans ahead (first other among)
        next behind =>
          refine List.pairwise_cons.mpr ⟨fun other among => ?_, ih later⟩
          by_cases new : other = key
          · subst new
            by_contra above
            exact differs (String.le_antisymm (String.not_lt.mp above) (String.not_lt.mp behind))
          · have kept : other ∈ rest.map Prod.fst := by
              by_contra absent
              have nothing := get?_insert_of_ne rest value new
              rw [get?_eq_none_iff.mpr absent] at nothing
              exact get?_eq_none_iff.mp nothing among
            exact first other kept

theorem ascending_merge {dict : Dict α} (ascending : (dict.map Prod.fst).Pairwise (· < ·))
    (update : Dict α) : ((merge dict update).map Prod.fst).Pairwise (· < ·) := by
  induction update generalizing dict with
  | nil => exact ascending
  | cons entry rest ih => exact ih (ascending_insert ascending entry.1 entry.2)

theorem nodup_of_ascending {dict : Dict α} (ascending : (dict.map Prod.fst).Pairwise (· < ·)) :
    (dict.map Prod.fst).Nodup :=
  List.Pairwise.imp (fun below same => absurd (same ▸ below) (String.lt_irrefl _)) ascending

/-- A dictionary with all keys of another one is at least as long. -/
theorem length_le_of_subset {dict : Dict α} {other : Dict β}
    (distinct : (dict.map Prod.fst).Nodup)
    (keys : ∀ key, get? dict key ≠ none → get? other key ≠ none) :
    dict.length ≤ other.length := by
  have subset : dict.map Prod.fst ⊆ other.map Prod.fst := fun key among => by
    have present := keys key fun absent => get?_eq_none_iff.mp absent among
    by_contra missing
    exact present (get?_eq_none_iff.mpr missing)
  have shorter := (distinct.subperm subset).length_le
  rwa [List.length_map, List.length_map] at shorter

/-- Dictionaries with the same keys are related entry by entry when their values are related under
every key. -/
theorem forall₂_of_get? {related : α → β → Prop} {left : Dict α} {right : Dict β}
    (ascending : (left.map Prod.fst).Pairwise (· < ·))
    (ascending' : (right.map Prod.fst).Pairwise (· < ·))
    (keys : ∀ key, get? left key = none ↔ get? right key = none)
    (each : ∀ key value found, get? left key = some value → get? right key = some found →
      related value found) :
    List.Forall₂ (fun entry other => entry.1 = other.1 ∧ related entry.2 other.2) left right := by
  induction left generalizing right with
  | nil =>
      cases right with
      | nil => exact .nil
      | cons other others =>
          have absent := (keys other.1).mp rfl
          simp [get?_cons] at absent
  | cons entry rest ih =>
      cases right with
      | nil =>
          have absent := (keys entry.1).mpr rfl
          simp [get?_cons] at absent
      | cons other others =>
          obtain ⟨first, ascending⟩ := List.pairwise_cons.mp ascending
          obtain ⟨first', ascending'⟩ := List.pairwise_cons.mp ascending'
          have fresh : get? rest entry.1 = none :=
            get?_eq_none_iff.mpr fun among => String.lt_irrefl _ (first _ among)
          have fresh' : get? others other.1 = none :=
            get?_eq_none_iff.mpr fun among => String.lt_irrefl _ (first' _ among)
          have same : entry.1 = other.1 := by
            by_contra differs
            have here := mt (keys entry.1).mpr (by simp [get?_cons])
            have there := mt (keys other.1).mp (by simp [get?_cons])
            rw [get?_cons, if_neg (Ne.symm differs), get?_eq_none_iff, not_not] at here
            rw [get?_cons, if_neg differs, get?_eq_none_iff, not_not] at there
            exact String.lt_asymm (first' _ here) (first _ there)
          refine .cons ⟨same, each entry.1 _ _ (by simp [get?_cons]) (by simp [get?_cons, same])⟩ ?_
          refine ih ascending ascending' (fun key => ?_) fun key value found here there => ?_
          · by_cases ahead : entry.1 = key
            · subst ahead
              exact iff_of_true fresh (same ▸ fresh')
            · have := keys key
              rwa [get?_cons, get?_cons, if_neg ahead, if_neg (same ▸ ahead)] at this
          · have ahead : entry.1 ≠ key := by
              rintro rfl
              rw [fresh] at here
              cases here
            refine each key value found ?_ ?_
            · rwa [get?_cons, if_neg ahead]
            · rwa [get?_cons, if_neg (same ▸ ahead)]

/-- Entries in ascending order of their keys are determined by what is read under the keys. -/
theorem eq_of_get? {left right : Dict α} (ascending : (left.map Prod.fst).Pairwise (· < ·))
    (ascending' : (right.map Prod.fst).Pairwise (· < ·))
    (found : ∀ key, get? left key = get? right key) : left = right := by
  have same (key : String) (value other : α) (here : get? left key = some value)
      (there : get? right key = some other) : value = other := by
    rw [← found key, here] at there
    exact Option.some.inj there
  have pairwise := forall₂_of_get? ascending ascending' (fun key => by rw [found key]) same
  exact List.forall₂_eq_eq_eq ▸ pairwise.imp fun _ _ same => Prod.ext same.1 same.2

/-- Entries in ascending order of their keys are a dictionary as they stand. -/
theorem ofEntries_of_ascending {entries : Dict α}
    (ascending : (entries.map Prod.fst).Pairwise (· < ·)) : ofEntries entries = entries := by
  refine eq_of_get? (ascending_merge List.Pairwise.nil entries) ascending fun key => ?_
  rw [ofEntries, get?_merge (nodup_of_ascending ascending), get?_nil, Option.or_none]

/-! ## Some of the keys -/

/-- Under keys none of which is read, choosing by one key more chooses nothing else. -/
theorem filter_cons_of_get?_eq_none {dict : Dict α} {key : String} (keys : List String)
    (absent : get? dict key = none) :
    (dict.filter fun entry => entry.1 ∈ key :: keys) =
      dict.filter fun entry => entry.1 ∈ keys := by
  have fresh : key ∉ dict.map Prod.fst := get?_eq_none_iff.mp absent
  apply List.filter_congr
  intro entry member
  have differs : entry.1 ≠ key := by
    intro same
    exact fresh (same ▸ List.mem_map_of_mem member)
  simp [differs]

/-- The entry under the smallest of some keys is the first one chosen by them. -/
theorem filter_cons_of_get?_eq_some {dict : Dict α} {key : String} {value : α}
    {keys : List String} (ascending : (dict.map Prod.fst).Pairwise (· < ·))
    (found : get? dict key = some value) (smallest : ∀ other ∈ keys, key < other) :
    (dict.filter fun entry => entry.1 ∈ key :: keys) =
      (key, value) :: dict.filter fun entry => entry.1 ∈ keys := by
  induction dict with
  | nil => cases found
  | cons entry rest ih =>
      rw [List.map_cons, List.pairwise_cons] at ascending
      obtain ⟨first, ascending⟩ := ascending
      rw [get?_cons] at found
      split at found
      next same =>
        obtain rfl := Option.some.inj found
        subst same
        -- No other key occurs a second time, and none of them is the first one.
        have absent : get? rest entry.1 = none := by
          rw [get?_eq_none_iff]
          intro again
          exact String.lt_irrefl _ (first _ again)
        have unlisted : entry.1 ∉ keys := by
          intro listed
          exact String.lt_irrefl _ (smallest _ listed)
        rw [List.filter_cons_of_pos (by simp), List.filter_cons_of_neg (by simpa using unlisted),
          filter_cons_of_get?_eq_none keys absent]
      next differs =>
        have later := first key (List.mem_map_of_mem (mem_of_get?_eq_some found))
        have unlisted : entry.1 ∉ keys := by
          intro listed
          exact String.lt_irrefl _ (String.lt_trans later (smallest _ listed))
        rw [List.filter_cons_of_neg (by simp [differs, unlisted]),
          List.filter_cons_of_neg (by simpa using unlisted)]
        exact ih ascending found

end Schemata.Dict
