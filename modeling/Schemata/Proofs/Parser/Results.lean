import Schemata.Parser.Cursor
import Schemata.Proofs.Outcome

/-!
# Results of parsing steps

A condition on whatever a step of parsing gives.  It says nothing about steps that fail, and it is
put together along the steps a parser is put together from.
-/

namespace Schemata.Parse

variable {α β : Type}

/-- Whatever the step gives satisfies the condition. -/
def Gives (holds : α → Prop) (step : Parse α) : Prop :=
  ∀ ⦃cursor value after⦄, step cursor = .ok value after → holds value

namespace Gives

variable {holds : α → Prop} {step : Parse α}

theorem pure {value : α} (here : holds value) : Gives holds (Pure.pure value) := by
  intro cursor found after run
  cases run
  exact here

theorem throw (error : SyntaxError) : Gives holds (MonadExcept.throw error : Parse α) := by
  intro cursor found after run
  cases run

theorem bind {next : α → Parse β} {holds' : β → Prop} (first : Gives holds step)
    (later : ∀ value, holds value → Gives holds' (next value)) :
    Gives holds' (step >>= next) := by
  intro cursor value after run
  obtain ⟨found, between, result, run⟩ := EStateM.bind_eq_ok_iff.mp run
  exact later found (first result) run

/-- What a step gives need not matter to what comes behind it. -/
theorem after {next : α → Parse β} {holds' : β → Prop} (step : Parse α)
    (later : ∀ value, Gives holds' (next value)) : Gives holds' (step >>= next) := by
  have anything : Gives (fun _ => True) step := fun _ _ _ _ => trivial
  exact anything.bind fun value _ => later value

theorem fail (cause : SyntaxError.Cause) : Gives holds (Parse.fail cause : Parse α) :=
  .after _ fun _ => throw _

theorem failAt (lexeme : Lexeme) (cause : SyntaxError.Cause) :
    Gives holds (Parse.failAt lexeme cause : Parse α) :=
  .after _ fun _ => throw _

theorem located (lexeme : Lexeme) {outcome : Except SyntaxError α}
    (each : ∀ result, outcome = .ok result → holds result) :
    Gives holds (Parse.located lexeme outcome) := by
  cases outcome with
  | ok result => exact pure (each result rfl)
  | error error => exact .after _ fun _ => throw _

theorem lift {outcome : Except SyntaxError α}
    (each : ∀ result, outcome = .ok result → holds result) :
    Gives holds (Parse.lift outcome) := by
  cases outcome with
  | ok result => exact pure (each result rfl)
  | error error => exact throw error

theorem following (each : Gives holds step) (mark : Punctuation) (turns : Nat) :
    Gives (∀ value ∈ ·, holds value) (Parse.following mark step turns) := by
  induction turns with
  | zero => exact pure fun _ nothing => nomatch nothing
  | succ turns ih =>
      refine .after _ fun eaten => ?_
      cases eaten with
      | false => exact pure fun _ nothing => nomatch nothing
      | true =>
          refine each.bind fun first here => ih.bind fun others later => ?_
          exact pure (List.forall_mem_cons.mpr ⟨here, later⟩)

end Gives

end Schemata.Parse
