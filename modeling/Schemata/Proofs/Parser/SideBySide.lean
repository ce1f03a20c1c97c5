import Schemata.Proofs.Parser.Steps

/-!
# Parsing steps side by side

One step of parsing follows another when it succeeds wherever the other one does, with a related
value at a related place.  Nothing is said where the other one fails.
-/

namespace Schemata.Parse

variable {α α' β β' : Type}

/-- From related places, the second step succeeds whenever the first one does, and what they give
and leave is related.  The first one puts no tokens back. -/
def Follows (before : Cursor → Cursor → Prop) (step : Parse α) (step' : Parse α')
    (behind : α → α' → Cursor → Cursor → Prop) : Prop :=
  ∀ ⦃cursor cursor'⦄, before cursor cursor' → ∀ ⦃value after⦄, step cursor = .ok value after →
    after.rest.length ≤ cursor.rest.length ∧
      ∃ value' after', step' cursor' = .ok value' after' ∧ behind value value' after after'

theorem fail_ne_ok {cause : SyntaxError.Cause} {cursor after : Cursor} {value : α} :
    (fail cause : Parse α) cursor ≠ .ok value after :=
  fun absurd => nomatch absurd

theorem failAt_ne_ok {lexeme : Lexeme} {cause : SyntaxError.Cause} {cursor after : Cursor}
    {value : α} : (failAt lexeme cause : Parse α) cursor ≠ .ok value after :=
  fun absurd => nomatch absurd

theorem located_eq_ok_iff {lexeme : Lexeme} {outcome : Except SyntaxError α}
    {cursor after : Cursor} {value : α} :
    located lexeme outcome cursor = .ok value after ↔ outcome = .ok value ∧ after = cursor := by
  cases outcome with
  | ok result =>
      constructor
      · rintro ⟨⟩
        exact ⟨rfl, rfl⟩
      · rintro ⟨⟨⟩, rfl⟩
        rfl
  | error error =>
      constructor
      · rintro ⟨⟩
      · rintro ⟨⟨⟩, _⟩

theorem lift_eq_ok_iff {outcome : Except SyntaxError α} {cursor after : Cursor} {value : α} :
    lift outcome cursor = .ok value after ↔ outcome = .ok value ∧ after = cursor := by
  cases outcome with
  | ok result =>
      constructor
      · rintro ⟨⟩
        exact ⟨rfl, rfl⟩
      · rintro ⟨⟨⟩, rfl⟩
        rfl
  | error error =>
      constructor
      · rintro ⟨⟩
      · rintro ⟨⟨⟩, _⟩

/-- A token is taken unless the cursor stands at the end. -/
theorem advance_eq_ok_iff {cursor after : Cursor} {lexeme : Lexeme} :
    advance cursor = .ok lexeme after ↔
      cursor.atEnd = false ∧ lexeme = cursor.current ∧
        after = { cursor with rest := cursor.rest.drop 1 } := by
  have step : advance cursor = (if cursor.atEnd then fail .unexpectedEnd else do
      set { cursor with rest := cursor.rest.drop 1 }
      return cursor.current : Parse Lexeme) cursor := rfl
  rw [step]
  cases cursor.atEnd with
  | true =>
      constructor
      · exact fun absurd => nomatch absurd
      · exact fun absurd => nomatch absurd.1
  | false =>
      constructor
      · rintro ⟨⟩
        exact ⟨rfl, rfl, rfl⟩
      · rintro ⟨_, rfl, rfl⟩
        rfl

theorem expectMark_ne_ok {mark : Punctuation} {cursor after : Cursor} {lexeme : Lexeme}
    (absent : cursor.tokens.head? ≠ some (.punctuation mark)) :
    expectMark mark cursor ≠ .ok lexeme after := by
  intro run
  obtain ⟨_, _, ⟨⟩, onward⟩ := EStateM.bind_eq_ok_iff.mp run
  split at onward
  next same =>
    have seen := Token.isMark_eq_true_iff.mp same
    rw [cursor.token_current_eq] at seen
    cases found : cursor.tokens.head? with
    | none => simp [found] at seen
    | some token =>
        rw [found] at seen
        exact absent (found.trans (congrArg some seen))
  · exact fail_ne_ok onward

theorem tokenAt_zero_of_advance {cursor after : Cursor} {lexeme : Lexeme}
    (run : advance cursor = .ok lexeme after) : after.tokenAt 0 = cursor.tokenAt 1 := by
  obtain ⟨_, _, rfl⟩ := advance_eq_ok_iff.mp run
  unfold Cursor.tokenAt Cursor.lexemeAt
  rw [List.getElem?_drop]
  rfl

namespace Follows

variable {before : Cursor → Cursor → Prop} {step : Parse α} {step' : Parse α'}
  {behind : α → α' → Cursor → Cursor → Prop}

theorem pure {value : α} {value' : α'}
    (related : ∀ cursor cursor', before cursor cursor' → behind value value' cursor cursor') :
    Follows before (Pure.pure value) (Pure.pure value') behind := by
  intro cursor cursor' start found after run
  cases run
  exact ⟨Nat.le_refl _, value', cursor', rfl, related _ _ start⟩

/-- A step that never succeeds is followed by every other. -/
theorem of_fails (fails : ∀ cursor value after, step cursor ≠ .ok value after) :
    Follows before step step' behind :=
  fun cursor _ _ value after run => absurd run (fails cursor value after)

theorem fail {cause : SyntaxError.Cause} : Follows before (Parse.fail cause) step' behind :=
  of_fails fun _ _ _ => fail_ne_ok

theorem failAt {lexeme : Lexeme} {cause : SyntaxError.Cause} :
    Follows before (Parse.failAt lexeme cause) step' behind :=
  of_fails fun _ _ _ => failAt_ne_ok

theorem mono {stronger : Cursor → Cursor → Prop} {weaker : α → α' → Cursor → Cursor → Prop}
    (follows : Follows before step step' behind)
    (start : ∀ cursor cursor', stronger cursor cursor' → before cursor cursor')
    (result : ∀ value value' after after', behind value value' after after' →
      weaker value value' after after') : Follows stronger step step' weaker := by
  intro cursor cursor' here value after run
  obtain ⟨shorter, value', after', run', there⟩ := follows (start _ _ here) run
  exact ⟨shorter, value', after', run', result _ _ _ _ there⟩

theorem of_start {stronger : Cursor → Cursor → Prop}
    (start : ∀ cursor cursor', stronger cursor cursor' → before cursor cursor')
    (follows : Follows before step step' behind) : Follows stronger step step' behind :=
  follows.mono start fun _ _ _ _ => id

/-- What holds without regard to the places can be taken out of the relation between them. -/
theorem assume {fact : Prop} (follows : fact → Follows before step step' behind) :
    Follows (fun cursor cursor' => fact ∧ before cursor cursor') step step' behind :=
  fun _ _ start => follows start.1 start.2

theorem bind {next : α → Parse β} {next' : α' → Parse β'}
    {finally_ : β → β' → Cursor → Cursor → Prop} (first : Follows before step step' behind)
    (later : ∀ value value', Follows (behind value value') (next value) (next' value') finally_) :
    Follows before (step >>= next) (step' >>= next') finally_ := by
  intro cursor cursor' start result after run
  obtain ⟨value, middle, run, onward⟩ := EStateM.bind_eq_ok_iff.mp run
  obtain ⟨shorter, value', middle', run', there⟩ := first start run
  obtain ⟨shorter', result', after', onward', reached⟩ := later value value' there onward
  exact ⟨Nat.le_trans shorter' shorter, result', after',
    EStateM.bind_eq_ok_iff.mpr ⟨value', middle', run', onward'⟩, reached⟩

/-- Steps that give the same value go on with it. -/
theorem bind_same {step' : Parse α} {next : α → Parse β} {next' : α → Parse β'}
    {place : α → Cursor → Cursor → Prop} {finally_ : β → β' → Cursor → Cursor → Prop}
    (first : Follows before step step' fun value value' after after' =>
      value' = value ∧ place value after after')
    (later : ∀ value, Follows (place value) (next value) (next' value) finally_) :
    Follows before (step >>= next) (step' >>= next') finally_ := by
  refine first.bind fun value value' => assume ?_
  rintro rfl
  exact later value'

/-- The number of tokens that are left stays below a bound. -/
theorem bounded (follows : Follows before step step' behind) (bound : Nat) :
    Follows (fun cursor cursor' => cursor.rest.length ≤ bound ∧ before cursor cursor') step step'
      fun value value' after after' =>
        after.rest.length ≤ bound ∧ behind value value' after after' := by
  rintro cursor cursor' ⟨few, start⟩ value after run
  obtain ⟨shorter, value', after', run', there⟩ := follows start run
  exact ⟨shorter, value', after', run', Nat.le_trans shorter few, there⟩

/-- Steps that give the same value keep below a bound. -/
theorem within {step' : Parse α} {place : α → Cursor → Cursor → Prop}
    (follows : Follows before step step' fun value value' after after' =>
      value' = value ∧ place value after after') (bound : Nat) :
    Follows (fun cursor cursor' => cursor.rest.length ≤ bound ∧ before cursor cursor') step step'
      fun value value' after after' =>
        value' = value ∧ after.rest.length ≤ bound ∧ place value after after' :=
  (follows.bounded bound).mono (fun _ _ => id) fun _ _ _ _ there => ⟨there.2.1, there.1, there.2.2⟩

/-- Between two known places, any relation that holds of them can be used. -/
theorem at_places {cursor cursor' : Cursor} (start : before cursor cursor')
    (follows : Follows before step step' behind) :
    Follows (fun here here' => here = cursor ∧ here' = cursor') step step' behind := by
  rintro _ _ ⟨rfl, rfl⟩
  exact follows start

/-- What the first step does is known behind it. -/
theorem ran {cursor cursor' : Cursor}
    (follows : Follows (fun here here' => here = cursor ∧ here' = cursor') step step' behind) :
    Follows (fun here here' => here = cursor ∧ here' = cursor') step step'
      fun value value' after after' =>
        step cursor = .ok value after ∧ behind value value' after after' := by
  intro here here' places value after run
  obtain ⟨shorter, value', after', run', there⟩ := follows places run
  rw [places.1] at run
  exact ⟨shorter, value', after', run', run, there⟩

/-- Looks at the places. -/
theorem get_bind {next : Cursor → Parse β} {next' : Cursor → Parse β'}
    {finally_ : β → β' → Cursor → Cursor → Prop}
    (later : ∀ cursor cursor', before cursor cursor' →
      Follows (fun here here' => here = cursor ∧ here' = cursor') (next cursor) (next' cursor')
        finally_) :
    Follows before (MonadStateOf.get >>= next) (MonadStateOf.get >>= next') finally_ :=
  fun cursor cursor' start _ _ run => later cursor cursor' start ⟨rfl, rfl⟩ run

/-- Looks at the places and goes on from anywhere like them. -/
theorem look_bind {next : Cursor → Parse β} {next' : Cursor → Parse β'}
    {finally_ : β → β' → Cursor → Cursor → Prop}
    (later : ∀ cursor cursor', before cursor cursor' →
      Follows before (next cursor) (next' cursor') finally_) :
    Follows before (MonadStateOf.get >>= next) (MonadStateOf.get >>= next') finally_ :=
  fun cursor cursor' start _ _ run => later cursor cursor' start start run

/-- Looks at the next tokens. -/
theorem token_bind {next : Lexeme → Parse β} {next' : Lexeme → Parse β'}
    {finally_ : β → β' → Cursor → Cursor → Prop}
    (later : ∀ cursor cursor', before cursor cursor' →
      Follows (fun here here' => here = cursor ∧ here' = cursor') (next cursor.current)
        (next' cursor'.current) finally_) :
    Follows before (Parse.current >>= next) (Parse.current >>= next') finally_ :=
  fun cursor cursor' start _ _ run => later cursor cursor' start ⟨rfl, rfl⟩ run

/-- Looks at tokens that only messages speak of. -/
theorem current_bind {next : Lexeme → Parse β} {next' : Lexeme → Parse β'}
    {finally_ : β → β' → Cursor → Cursor → Prop}
    (later : ∀ lexeme lexeme', Follows before (next lexeme) (next' lexeme') finally_) :
    Follows before (Parse.current >>= next) (Parse.current >>= next') finally_ :=
  fun cursor cursor' start _ _ run => later cursor.current cursor'.current start run

/-- A construction that succeeds does so wherever its errors are placed. -/
theorem located {lexeme lexeme' : Lexeme} {outcome : Except SyntaxError α} :
    Follows before (Parse.located lexeme outcome) (Parse.located lexeme' outcome)
      fun value value' after after' => value' = value ∧ before after after' := by
  intro cursor cursor' start value after run
  obtain ⟨success, rfl⟩ := located_eq_ok_iff.mp run
  exact ⟨Nat.le_refl _, value, cursor', located_eq_ok_iff.mpr ⟨success, rfl⟩, rfl, start⟩

theorem lift {outcome outcome' : Except SyntaxError α}
    (same : ∀ value, outcome = .ok value → outcome' = .ok value) :
    Follows before (Parse.lift outcome) (Parse.lift outcome')
      fun value value' after after' => value' = value ∧ before after after' := by
  intro cursor cursor' start value after run
  obtain ⟨success, rfl⟩ := lift_eq_ok_iff.mp run
  exact ⟨Nat.le_refl _, value, cursor', lift_eq_ok_iff.mpr ⟨same value success, rfl⟩, rfl, start⟩

end Follows

end Schemata.Parse
