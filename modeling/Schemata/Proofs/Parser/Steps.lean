import Schemata.Parser.Cursor
import Schemata.Proofs.Outcome

/-!
# Steps of parsing on known tokens

What a step of parsing does when the tokens at the cursor are known: which value it gives, and which
tokens it leaves.  The places of the tokens in the input do not matter to it.
-/

namespace Schemata

namespace Token

theorem isMark_eq_true_iff {token : Token} {mark : Punctuation} :
    token.isMark mark = true ↔ token = .punctuation mark := by
  cases token <;> simp [isMark, isSame]

theorem isSame_mark_self (mark : Punctuation) :
    (Token.punctuation mark).isSame (.punctuation mark) = true := by
  simp [isSame]

end Token

namespace Cursor

/-- The tokens that are left. -/
def tokens (cursor : Cursor) : List Token :=
  cursor.rest.map Lexeme.token

theorem tokenAt_eq (cursor : Cursor) (places : Nat) :
    cursor.tokenAt places = (cursor.tokens[places]?).getD .endOfInput := by
  rw [tokenAt, lexemeAt, tokens, List.getElem?_map]
  cases cursor.rest[places]? <;> rfl

theorem token_current_eq (cursor : Cursor) :
    cursor.current.token = (cursor.tokens.head?).getD .endOfInput := by
  rw [List.head?_eq_getElem?]
  exact cursor.tokenAt_eq 0

theorem hasMarkAt_eq_true_iff {cursor : Cursor} {places : Nat} {mark : Punctuation} :
    cursor.hasMarkAt places mark = true ↔ cursor.tokens[places]? = some (.punctuation mark) := by
  rw [hasMarkAt, Token.isMark_eq_true_iff, tokenAt_eq]
  cases cursor.tokens[places]? <;> simp

end Cursor

namespace Parse

variable {α β : Type}

/-- Before some tokens, the step gives a value that satisfies the condition, and leaves the
remaining tokens. -/
def Leads (step : Parse α) (tokens : List Token) (holds : α → Prop) (remaining : List Token) :
    Prop :=
  ∀ ⦃cursor : Cursor⦄, cursor.tokens = tokens →
    ∃ value after, step cursor = .ok value after ∧ holds value ∧ after.tokens = remaining

namespace Leads

variable {step : Parse α} {tokens between remaining : List Token} {holds : α → Prop}

theorem bind {next : α → Parse β} {holds' : β → Prop} (first : Leads step tokens holds between)
    (later : ∀ value, holds value → Leads (next value) between holds' remaining) :
    Leads (step >>= next) tokens holds' remaining := by
  intro cursor start
  obtain ⟨value, middle, run, here, reached⟩ := first start
  obtain ⟨result, after, run', there, left⟩ := later value here reached
  refine ⟨result, after, ?_, there, left⟩
  rw [EStateM.bind_of_ok run]
  exact run'

theorem pure {value : α} (here : holds value) : Leads (Pure.pure value) tokens holds tokens :=
  fun cursor start => ⟨value, cursor, rfl, here, start⟩

theorem imp {weaker : α → Prop} (leads : Leads step tokens holds remaining)
    (implies : ∀ value, holds value → weaker value) : Leads step tokens weaker remaining := by
  intro cursor start
  obtain ⟨value, after, run, here, left⟩ := leads start
  exact ⟨value, after, run, implies value here, left⟩

/-- Looking at the cursor. -/
theorem get : Leads (MonadStateOf.get : Parse Cursor) tokens (·.tokens = tokens) tokens :=
  fun cursor start => ⟨cursor, cursor, rfl, start, start⟩

theorem current :
    Leads Parse.current tokens (·.token = (tokens.head?).getD .endOfInput) tokens := by
  refine get.bind fun cursor start => pure ?_
  rw [cursor.token_current_eq, start]

theorem turns : Leads Parse.turns tokens (· = tokens.length) tokens := by
  refine get.bind fun cursor start => pure ?_
  rw [← start, Cursor.tokens, List.length_map]

theorem located (lexeme : Lexeme) {outcome : Except SyntaxError α} {result : α}
    (success : outcome = .ok result) :
    Leads (Parse.located lexeme outcome) tokens (· = result) tokens := by
  rw [success]
  exact pure rfl

section

variable {token : Token}

/-- A token is taken unless it is the end. -/
theorem advance (here : token.isSame .endOfInput = false) :
    Leads Parse.advance (token :: remaining) (·.token = token) remaining := by
  intro cursor start
  have seen : cursor.current.token = token := by
    rw [cursor.token_current_eq, start]
    rfl
  have more : cursor.atEnd = false := by rw [Cursor.atEnd, seen, here]
  have step : Parse.advance cursor = (if cursor.atEnd then Parse.fail .unexpectedEnd else do
      set { cursor with rest := cursor.rest.drop 1 }
      return cursor.current : Parse Lexeme) cursor := rfl
  refine ⟨cursor.current, { cursor with rest := cursor.rest.drop 1 }, ?_, seen, ?_⟩
  · rw [step, more]
    rfl
  · rw [Cursor.tokens, List.map_drop]
    exact congrArg (List.drop 1) start

theorem takeWord {word : String} :
    Leads Parse.takeWord (.word word :: remaining) (· = word) remaining := by
  refine get.bind fun cursor start => ?_
  have seen : cursor.current.token = .word word := by
    rw [cursor.token_current_eq, start]
    rfl
  simp only [seen]
  exact (advance (by rfl)).bind fun _ _ => pure rfl

theorem eatMark {mark : Punctuation} :
    Leads (Parse.eatMark mark) (.punctuation mark :: remaining) (· = true) remaining := by
  refine get.bind fun cursor start => ?_
  have seen : cursor.current.token = .punctuation mark := by
    rw [cursor.token_current_eq, start]
    rfl
  rw [seen, Token.isSame_mark_self]
  exact (advance (by rfl)).bind fun _ _ => pure rfl

theorem eatMark_of_ne {mark : Punctuation} (absent : tokens.head? ≠ some (.punctuation mark)) :
    Leads (Parse.eatMark mark) tokens (· = false) tokens := by
  refine get.bind fun cursor start => ?_
  have other : cursor.current.token.isSame (.punctuation mark) = false := by
    rw [Bool.eq_false_iff]
    intro same
    have seen := Token.isMark_eq_true_iff.mp same
    rw [cursor.token_current_eq, start] at seen
    cases first : tokens.head? with
    | none =>
        rw [first] at seen
        cases seen
    | some token =>
        rw [first] at seen absent
        exact absent (congrArg some seen)
  rw [other]
  exact pure rfl

theorem expectMark {mark : Punctuation} :
    Leads (Parse.expectMark mark) (.punctuation mark :: remaining) (fun _ => True) remaining := by
  refine get.bind fun cursor start => ?_
  have seen : cursor.current.token = .punctuation mark := by
    rw [cursor.token_current_eq, start]
    rfl
  simp only [seen, Token.isSame_mark_self, if_true]
  exact (advance (by rfl)).imp fun _ _ => trivial

end

/-- Items behind a mark each are read one by one, up to tokens that do not begin with the mark. -/
theorem following {mark : Punctuation} {tokensOf : α → List Token} {items : List α}
    (ends : remaining.head? ≠ some (.punctuation mark))
    (each : ∀ item ∈ items, ∀ rest, rest.head? = some (.punctuation mark) ∨ rest = remaining →
      Leads step (tokensOf item ++ rest) (· = item) rest)
    {turns : Nat} (enough : items.length ≤ turns) :
    Leads (Parse.following mark step turns)
      (items.flatMap (fun item => .punctuation mark :: tokensOf item) ++ remaining) (· = items)
      remaining := by
  induction items generalizing turns with
  | nil =>
      cases turns with
      | zero => exact pure rfl
      | succ turns =>
          refine (eatMark_of_ne ends).bind ?_
          rintro _ rfl
          exact pure rfl
  | cons item rest ih =>
      cases turns with
      | zero => exact absurd enough (by simp)
      | succ turns =>
          obtain ⟨here, others⟩ := List.forall_mem_cons.mp each
          have later := ih others (Nat.le_of_succ_le_succ enough)
          rw [List.flatMap_cons, List.cons_append, List.cons_append, List.append_assoc]
          refine eatMark.bind ?_
          rintro _ rfl
          refine (here _ ?_).bind ?_
          · cases rest with
            | nil => exact .inr rfl
            | cons second rest => exact .inl rfl
          · rintro _ rfl
            refine later.bind ?_
            rintro _ rfl
            exact pure rfl

end Leads

/-! ## Steps that fail -/

section

variable {step : Parse α} {tokens between remaining : List Token}

/-- Before some tokens, the step fails. -/
def Fails (step : Parse α) (tokens : List Token) : Prop :=
  ∀ ⦃cursor : Cursor⦄, cursor.tokens = tokens → ∃ error after, step cursor = .error error after

theorem fails_failAt {lexeme : Lexeme} {cause : SyntaxError.Cause} :
    Fails (failAt lexeme cause : Parse α) tokens :=
  fun cursor _ => ⟨cursor.errorAt lexeme cause, cursor, rfl⟩

/-- What fails first fails. -/
theorem Fails.bind {next : α → Parse β} (fails : Fails step tokens) :
    Fails (step >>= next) tokens := by
  intro cursor start
  obtain ⟨error, after, failed⟩ := fails start
  exact ⟨error, after, EStateM.bind_of_error failed⟩

theorem Leads.fails {holds : α → Prop} {next : α → Parse β}
    (first : Leads step tokens holds between)
    (later : ∀ value, holds value → Fails (next value) between) : Fails (step >>= next) tokens := by
  intro cursor start
  obtain ⟨value, middle, run, here, reached⟩ := first start
  obtain ⟨error, after, failed⟩ := later value here reached
  refine ⟨error, after, ?_⟩
  rw [EStateM.bind_of_ok run]
  exact failed

/-- Before some tokens, the step gives the answer and leaves the remaining tokens.  Where there is
no answer, it fails. -/
def Answers (step : Parse α) (tokens remaining : List Token) : Option α → Prop
  | some value => Leads step tokens (· = value) remaining
  | none => Fails step tokens

theorem Leads.answers {holds : α → Prop} {next : α → Parse β} {answer : Option β}
    (first : Leads step tokens holds between)
    (later : ∀ value, holds value → Answers (next value) between remaining answer) :
    Answers (step >>= next) tokens remaining answer := by
  cases answer with
  | some value => exact first.bind later
  | none => exact first.fails later

end

end Parse

end Schemata
