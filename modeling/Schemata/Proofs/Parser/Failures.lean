import Schemata.Parser.Cursor

/-!
# Steps that never find an unknown case

A step of parsing ends well when whatever it gives satisfies a condition, and whatever it fails with
is no constant with an unknown enum case, not even in the text of a declaration.  Steps that end
well are put together from steps that do.
-/

namespace Schemata

/-- Whether a constant with an unknown enum case is what is wrong, in the text at hand or in that of
a declaration. -/
def SyntaxError.Cause.isUnknownCase : SyntaxError.Cause → Bool
  | .unknownEnumCase .. => true
  | .within cause _ _ => cause.isUnknownCase
  | _ => false

/-- The construction gives what satisfies the condition, or fails for something else than an unknown
case. -/
def Parse.Builds {α : Type} (holds : α → Prop) : Except SyntaxError α → Prop
  | .ok value => holds value
  | .error error => error.cause.isUnknownCase = false

/-- The step gives what satisfies the condition, or fails for something else than an unknown
case. -/
def Parse.EndsWell {α : Type} (holds : α → Prop) (step : Parse α) : Prop :=
  ∀ cursor, match step cursor with
    | .ok value _ => holds value
    | .error error _ => error.cause.isUnknownCase = false

/-! ## Constructions -/

namespace Parse.Builds

variable {α β : Type} {holds : α → Prop} {holds' : β → Prop} {outcome : Except SyntaxError α}

theorem map {change : α → β} (first : Builds holds outcome)
    (later : ∀ value, holds value → holds' (change value)) :
    Builds holds' (outcome.map change) := by
  cases outcome with
  | ok value => exact later value first
  | error error => exact first

/-- An unknown case stays one, and anything else stays something else, in the text of a
declaration. -/
theorem within (first : Builds holds outcome) (place : SyntaxError.Place) (name : String) :
    Builds holds (outcome.mapError (·.within place name)) := by
  cases outcome with
  | ok value => exact first
  | error error => exact first

/-- A text without tokens has an open string in it. -/
theorem ofInput (text : String) : Builds (fun _ => True) (Cursor.ofInput text) := by
  have tokens : Builds (fun _ => True) (Token.tokenize text) := by
    unfold Token.tokenize
    dsimp only
    cases Token.scan text.toList.length 0 text.toList with
    | ok lexemes => trivial
    | error unclosed => rfl
  exact tokens.map fun _ _ => trivial

end Parse.Builds

namespace Parse.EndsWell

variable {α β : Type} {holds : α → Prop} {holds' : β → Prop} {step : Parse α}

theorem pure {value : α} (here : holds value) : EndsWell holds (Pure.pure value) :=
  fun _ => here

theorem throw {error : SyntaxError} (harmless : error.cause.isUnknownCase = false) :
    EndsWell holds (MonadExcept.throw error : Parse α) :=
  fun _ => harmless

theorem bind {next : α → Parse β} (first : EndsWell holds step)
    (later : ∀ value, holds value → EndsWell holds' (next value)) :
    EndsWell holds' (step >>= next) := by
  intro cursor
  have start := first cursor
  change match EStateM.bind step next cursor with
    | .ok value _ => holds' value
    | .error error _ => error.cause.isUnknownCase = false
  unfold EStateM.bind
  cases run : step cursor with
  | ok value after =>
      rw [run] at start
      exact later value start after
  | error error after =>
      rw [run] at start
      exact start

/-- What a step gives need not matter to what comes behind it. -/
theorem andThen {next : α → Parse β} (first : EndsWell (fun _ => True) step)
    (later : ∀ value, EndsWell holds' (next value)) : EndsWell holds' (step >>= next) :=
  first.bind fun value _ => later value

/-! ## Single steps -/

theorem get : EndsWell (fun _ => True) (MonadState.get : Parse Cursor) :=
  fun _ => trivial

theorem current : EndsWell (fun _ => True) Parse.current :=
  fun _ => trivial

theorem turns : EndsWell (fun _ => True) Parse.turns :=
  fun _ => trivial

theorem fail {cause : SyntaxError.Cause} (harmless : cause.isUnknownCase = false) :
    EndsWell holds (Parse.fail cause : Parse α) :=
  .andThen get fun _ => throw harmless

theorem failAt {lexeme : Lexeme} {cause : SyntaxError.Cause}
    (harmless : cause.isUnknownCase = false) :
    EndsWell holds (Parse.failAt lexeme cause : Parse α) :=
  .andThen get fun _ => throw harmless

theorem advance : EndsWell (fun _ => True) Parse.advance := by
  refine .andThen get fun cursor => ?_
  split
  · exact fail rfl
  · exact .andThen (fun _ => trivial) fun _ => pure trivial

theorem expectMark (mark : Punctuation) : EndsWell (fun _ => True) (Parse.expectMark mark) := by
  refine .andThen get fun cursor => ?_
  dsimp only
  split
  · exact advance
  · exact fail rfl

theorem eatMark (mark : Punctuation) : EndsWell (fun _ => True) (Parse.eatMark mark) := by
  refine .andThen get fun cursor => ?_
  split
  · exact .andThen advance fun _ => pure trivial
  · exact pure trivial

theorem takeWord : EndsWell (fun _ => True) Parse.takeWord := by
  refine .andThen get fun cursor => ?_
  dsimp only
  split
  · exact .andThen advance fun _ => pure trivial
  · exact fail rfl

/-! ## Constructions and loops -/

theorem located {lexeme : Lexeme} {outcome : Except SyntaxError α}
    (ends : Builds holds outcome) : EndsWell holds (Parse.located lexeme outcome) := by
  cases outcome with
  | ok result => exact pure ends
  | error error =>
      refine .andThen get fun cursor => throw ?_
      unfold Cursor.locateAt SyntaxError.locate
      split
      · exact ends
      · exact ends

theorem lift {outcome : Except SyntaxError α} (ends : Builds holds outcome) :
    EndsWell holds (Parse.lift outcome) := by
  cases outcome with
  | ok result => exact pure ends
  | error error => exact throw ends

theorem following (each : EndsWell holds step) (mark : Punctuation) (turns : Nat) :
    EndsWell (∀ value ∈ ·, holds value) (Parse.following mark step turns) := by
  induction turns with
  | zero => exact pure fun _ nothing => nomatch nothing
  | succ turns ih =>
      refine .andThen (eatMark mark) fun eaten => ?_
      cases eaten with
      | false => exact pure fun _ nothing => nomatch nothing
      | true =>
          refine each.bind fun first here => ih.bind fun others later => ?_
          exact pure (List.forall_mem_cons.mpr ⟨here, later⟩)

end Parse.EndsWell

end Schemata
