import Mathlib.Data.List.Forall2

/-!
# Outcomes

When computations that can stop come to a value.
-/

namespace Schemata.Except

open List (Forall₂)

variable {ε α β : Type}

theorem bind_eq_ok_iff {first : Except ε α} {next : α → Except ε β} {result : β} :
    first >>= next = .ok result ↔ ∃ value, first = .ok value ∧ next value = .ok result := by
  cases first with
  | error cause => simp [bind, Except.bind]
  | ok value => simp [bind, Except.bind]

theorem map_eq_ok_iff {change : α → β} {first : Except ε α} {result : β} :
    change <$> first = .ok result ↔ ∃ value, first = .ok value ∧ change value = result := by
  cases first with
  | error cause => simp [Functor.map, Except.map]
  | ok value => simp [Functor.map, Except.map]

theorem toOption_eq_some_iff {first : Except ε α} {result : α} :
    first.toOption = some result ↔ first = .ok result := by
  cases first with
  | error cause => simp [Except.toOption]
  | ok value => simp [Except.toOption]

theorem mapM_eq_ok_iff {change : α → Except ε β} {items : List α} {results : List β} :
    items.mapM change = .ok results ↔
      Forall₂ (fun item result => change item = .ok result) items results := by
  induction items generalizing results with
  | nil =>
      rw [List.mapM_nil, List.forall₂_nil_left_iff]
      exact ⟨fun same => (Except.ok.inj same).symm, fun same => congrArg _ same.symm⟩
  | cons item rest ih =>
      simp only [List.mapM_cons, bind_eq_ok_iff, ih, List.forall₂_cons_left_iff]
      constructor
      · rintro ⟨result, here, others, inside, same⟩
        exact ⟨result, others, here, inside, (Except.ok.inj same).symm⟩
      · rintro ⟨result, others, here, inside, rfl⟩
        exact ⟨result, here, others, inside, rfl⟩

theorem exists_mapM_eq_ok {change : α → Except ε β} {items : List α}
    (each : ∀ item ∈ items, ∃ result, change item = .ok result) :
    ∃ results, items.mapM change = .ok results := by
  induction items with
  | nil => exact ⟨[], rfl⟩
  | cons item rest ih =>
      obtain ⟨first, here⟩ := each item List.mem_cons_self
      obtain ⟨others, later⟩ := ih fun other member => each other (List.mem_cons_of_mem _ member)
      refine ⟨first :: others, ?_⟩
      rw [mapM_eq_ok_iff] at later ⊢
      exact .cons here later

/-- Where all stops have one cause, a computation over a list stops for it at the first item that
does. -/
theorem mapM_eq_error {change : α → Except ε β} {items : List α} {cause : ε}
    (each : ∀ item ∈ items, (∃ result, change item = .ok result) ∨ change item = .error cause)
    (stops : ∃ item ∈ items, change item = .error cause) :
    items.mapM change = .error cause := by
  induction items with
  | nil =>
      obtain ⟨_, nothing, _⟩ := stops
      cases nothing
  | cons item rest ih =>
      rw [List.mapM_cons]
      rcases each item List.mem_cons_self with ⟨first, here⟩ | here
      · have later : rest.mapM change = .error cause := by
          apply ih
          · intro other member
            exact each other (List.mem_cons_of_mem _ member)
          · obtain ⟨other, member, stopped⟩ := stops
            rcases List.mem_cons.mp member with rfl | among
            · rw [here] at stopped
              cases stopped
            · exact ⟨other, among, stopped⟩
        rw [here, later]
        rfl
      · rw [here]
        rfl

/-- A computation over a list stops where its first item does that stops. -/
theorem exists_of_mapM_eq_error {change : α → Except ε β} {items : List α} {cause : ε}
    (stopped : items.mapM change = .error cause) :
    ∃ (index : Nat) (item : α), items[index]? = some item ∧ change item = .error cause ∧
      ∀ earlier < index, ∀ other, items[earlier]? = some other →
        ∃ result, change other = .ok result := by
  induction items with
  | nil => cases stopped
  | cons item rest ih =>
      rw [List.mapM_cons] at stopped
      cases here : change item with
      | error found =>
          rw [here] at stopped
          cases stopped
          exact ⟨0, item, rfl, here, nofun⟩
      | ok first =>
          rw [here] at stopped
          have later : rest.mapM change = .error cause := by
            cases run : rest.mapM change with
            | error found =>
                rw [run] at stopped
                exact stopped
            | ok others =>
                rw [run] at stopped
                cases stopped
          obtain ⟨index, other, found, stops, before⟩ := ih later
          refine ⟨index + 1, other, found, stops, fun earlier less third among => ?_⟩
          cases earlier with
          | zero =>
              cases among
              exact ⟨first, here⟩
          | succ earlier => exact before earlier (Nat.lt_of_succ_lt_succ less) third among

end Schemata.Except

namespace Schemata.EStateM

variable {ε σ α β : Type} {step : EStateM ε σ α} {next : α → EStateM ε σ β} {state after : σ}

theorem bind_of_ok {value : α} (run : step state = .ok value after) :
    (step >>= next) state = next value after := by
  change EStateM.bind step next state = _
  rw [EStateM.bind, run]

theorem bind_of_error {cause : ε} (run : step state = .error cause after) :
    (step >>= next) state = .error cause after := by
  change EStateM.bind step next state = _
  rw [EStateM.bind, run]

theorem bind_eq_ok_iff {result : β} :
    (step >>= next) state = .ok result after ↔
      ∃ value middle, step state = .ok value middle ∧ next value middle = .ok result after := by
  cases run : step state with
  | ok value middle =>
      rw [bind_of_ok run]
      constructor
      · exact fun onward => ⟨value, middle, rfl, onward⟩
      · rintro ⟨_, _, ⟨⟩, onward⟩
        exact onward
  | error cause middle => simp [bind_of_error run]

end Schemata.EStateM
