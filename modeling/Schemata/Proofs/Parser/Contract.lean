import Schemata.Proofs.Parser.Steps

/-!
# Contracts of parsing steps

What a step of parsing keeps to in a given text, whether it gives something or fails: it takes
tokens whose braces match, what it gives satisfies a condition, and what it fails with is an error
of a given kind, at a token of the text unless it comes from that of a declaration.  Steps that keep
to a contract are put together from steps that do.
-/

namespace Schemata

/-! ## Matching braces -/

namespace Token

/-- Whether a token is an opening or a closing brace. -/
def isBrace : Token → Bool
  | .punctuation .openBrace | .punctuation .closeBrace => true
  | _ => false

/-- Every brace of the tokens has its counterpart among them. -/
inductive Balanced : List Token → Prop where
  | nil : Balanced []
  | plain {token : Token} {rest : List Token} (no_brace : token.isBrace = false)
      (later : Balanced rest) : Balanced (token :: rest)
  | braces {inner rest : List Token} (inside : Balanced inner) (later : Balanced rest) :
      Balanced (.punctuation .openBrace :: (inner ++ .punctuation .closeBrace :: rest))

namespace Balanced

theorem append {tokens others : List Token} (first : Balanced tokens) (second : Balanced others) :
    Balanced (tokens ++ others) := by
  induction first with
  | nil => exact second
  | plain no_brace _ ih => exact .plain no_brace ih
  | braces inside _ _ ih =>
      rw [List.cons_append, List.append_assoc]
      exact .braces inside ih

theorem singleton {token : Token} (no_brace : token.isBrace = false) : Balanced [token] :=
  .plain no_brace .nil

/-- A last token that is no brace has no counterpart. -/
theorem of_concat {tokens : List Token} {token : Token} (no_brace : token.isBrace = false)
    (balanced : Balanced (tokens ++ [token])) : Balanced tokens := by
  generalize same : tokens ++ [token] = whole at balanced
  induction balanced generalizing tokens with
  | nil => exact absurd same (by simp)
  | plain no_brace' _ ih =>
      cases tokens with
      | nil => exact .nil
      | cons first rest =>
          obtain ⟨rfl, behind⟩ := List.cons.inj same
          exact .plain no_brace' (ih behind)
  | @braces inner rest inside later _ ih =>
      rcases List.eq_nil_or_concat rest with rfl | ⟨rest, last, rfl⟩
      · rw [← List.cons_append] at same
        obtain ⟨_, brace⟩ := List.append_inj' same rfl
        rw [(List.cons.inj brace).1] at no_brace
        cases no_brace
      · rw [List.concat_eq_append, ← List.cons_append, ← List.cons_append, ← List.append_assoc]
          at same
        obtain ⟨rfl, here⟩ := List.append_inj' same rfl
        rw [(List.cons.inj here).1] at ih
        exact .braces inside (ih List.concat_eq_append.symm)

/-- The closing brace behind balanced tokens is the only one there can be. -/
theorem unique {tokens tokens' rest rest' : List Token} (balanced : Balanced tokens)
    (balanced' : Balanced tokens')
    (same : tokens ++ .punctuation .closeBrace :: rest =
      tokens' ++ .punctuation .closeBrace :: rest') :
    tokens = tokens' ∧ rest = rest' := by
  induction balanced generalizing tokens' rest rest' with
  | nil =>
      cases balanced' with
      | nil => exact ⟨rfl, (List.cons.inj same).2⟩
      | plain no_brace later =>
          rw [← (List.cons.inj same).1] at no_brace
          cases no_brace
      | braces => cases (List.cons.inj same).1
  | plain no_brace _ ih =>
      cases balanced' with
      | nil =>
          rw [(List.cons.inj same).1] at no_brace
          cases no_brace
      | plain _ later =>
          obtain ⟨first, behind⟩ := List.cons.inj same
          obtain ⟨inside, rests⟩ := ih later behind
          exact ⟨by rw [first, inside], rests⟩
      | braces =>
          rw [(List.cons.inj same).1] at no_brace
          cases no_brace
  | @braces inner later _ _ ih ih' =>
      cases balanced' with
      | nil => cases (List.cons.inj same).1
      | plain no_brace =>
          rw [← (List.cons.inj same).1] at no_brace
          cases no_brace
      | @braces inner' later' inside' after' =>
          simp only [List.cons_append, List.append_assoc, List.cons.injEq, true_and] at same
          obtain ⟨inside, closed⟩ := ih inside' same
          obtain ⟨later, rests⟩ := ih' after' closed
          exact ⟨by rw [inside, later], rests⟩

end Balanced

end Token

/-! ## Places -/

namespace Cursor

variable {cursor between after : Cursor}

/-- A later place in the same text, with balanced tokens in between. -/
def Reaches (cursor after : Cursor) : Prop :=
  after.input = cursor.input ∧
    ∃ taken : List Lexeme, cursor.rest = taken ++ after.rest ∧
      Token.Balanced (taken.map Lexeme.token)

theorem Reaches.refl (cursor : Cursor) : cursor.Reaches cursor :=
  ⟨rfl, [], rfl, .nil⟩

theorem Reaches.trans (first : cursor.Reaches between) (second : between.Reaches after) :
    cursor.Reaches after := by
  obtain ⟨same, taken, rest, balanced⟩ := first
  obtain ⟨same', taken', rest', balanced'⟩ := second
  refine ⟨same'.trans same, taken ++ taken', ?_, ?_⟩
  · rw [rest, rest', List.append_assoc]
  · rw [List.map_append]
    exact balanced.append balanced'

/-- Unless the cursor stands at the end, the token at the cursor is the first of those left. -/
theorem rest_eq_of_atEnd (more : cursor.atEnd = false) :
    cursor.rest = cursor.current :: cursor.rest.drop 1 := by
  cases left : cursor.rest with
  | nil =>
      rw [atEnd, current, lexemeAt, left] at more
      cases more
  | cons lexeme rest =>
      rw [current, lexemeAt, left]
      rfl

end Cursor

/-! ## Running steps -/

/-- Whether the innermost cause is an alias that is being expanded already. -/
def SyntaxError.Cause.isRecursiveAlias : SyntaxError.Cause → Bool
  | .recursiveAlias _ => true
  | .within cause _ _ => cause.isRecursiveAlias
  | _ => false

namespace Parse

variable {α β : Type} {step : Parse α} {next : α → Parse β} {cursor between : Cursor}

/-- The token at the cursor is taken, or the text has ended. -/
theorem advance_cases (cursor : Cursor) :
    (∃ after, advance cursor = .ok cursor.current after ∧
      cursor.rest = cursor.current :: after.rest ∧ after.input = cursor.input) ∨
    ∃ cause after, advance cursor = .error (cursor.errorAt cursor.current cause) after ∧
      cause.isRecursiveAlias = false := by
  have step : advance cursor = (if cursor.atEnd then fail .unexpectedEnd else do
      set { cursor with rest := cursor.rest.drop 1 }
      return cursor.current : Parse Lexeme) cursor := rfl
  rw [step]
  cases more : cursor.atEnd with
  | true => exact .inr ⟨_, _, rfl, rfl⟩
  | false => exact .inl ⟨_, rfl, Cursor.rest_eq_of_atEnd more, rfl⟩

/-- The expected mark is taken, or it is not there. -/
theorem expectMark_cases (mark : Punctuation) (cursor : Cursor) :
    (∃ lexeme after, expectMark mark cursor = .ok lexeme after ∧
      lexeme.token = .punctuation mark ∧ cursor.rest = lexeme :: after.rest ∧
      after.input = cursor.input) ∨
    ∃ cause after, expectMark mark cursor = .error (cursor.errorAt cursor.current cause) after ∧
      cause.isRecursiveAlias = false := by
  have step : expectMark mark cursor =
      (if cursor.current.token.isSame (.punctuation mark) then advance
      else fail (.expectedToken (Token.punctuation mark).display cursor.current.token.display) :
        Parse Lexeme) cursor := rfl
  rw [step]
  cases same : cursor.current.token.isSame (.punctuation mark) with
  | false => exact .inr ⟨_, _, rfl, rfl⟩
  | true =>
      rw [if_pos rfl]
      refine (advance_cases cursor).imp_left ?_
      rintro ⟨after, run, rest, input⟩
      exact ⟨_, after, run, Token.isMark_eq_true_iff.mp same, rest, input⟩

/-- The mark is taken, or something else comes next. -/
theorem eatMark_cases (mark : Punctuation) (cursor : Cursor) :
    (∃ lexeme after, eatMark mark cursor = .ok true after ∧ lexeme.token = .punctuation mark ∧
      cursor.rest = lexeme :: after.rest ∧ after.input = cursor.input) ∨
    eatMark mark cursor = .ok false cursor := by
  have step : eatMark mark cursor =
      (if cursor.current.token.isSame (.punctuation mark) then do
        let _ ← advance
        return true
      else return false : Parse Bool) cursor := rfl
  rw [step]
  cases same : cursor.current.token.isSame (.punctuation mark) with
  | false => exact .inr rfl
  | true =>
      have seen := Token.isMark_eq_true_iff.mp same
      have more : cursor.atEnd = false := by
        rw [Cursor.atEnd, seen]
        rfl
      refine .inl ⟨_, { cursor with rest := cursor.rest.drop 1 }, ?_, seen,
        Cursor.rest_eq_of_atEnd more, rfl⟩
      have run : advance cursor =
          .ok cursor.current { cursor with rest := cursor.rest.drop 1 } := by
        change (if cursor.atEnd then fail .unexpectedEnd else do
          set { cursor with rest := cursor.rest.drop 1 }
          return cursor.current : Parse Lexeme) cursor = _
        rw [more]
        rfl
      rw [if_pos rfl, EStateM.bind_of_ok run]
      rfl

end Parse

/-! ## Contracts -/

/-- One of the tokens of a text, or its end. -/
def Lexeme.StandsIn (text : String) (lexemes : List Lexeme) (lexeme : Lexeme) : Prop :=
  lexeme ∈ lexemes ∨ lexeme = ⟨.endOfInput, ⟨text.length, text.length⟩⟩

/-- The error is at one of the tokens of a text. -/
def SyntaxError.PointsAt (text : String) (lexemes : List Lexeme) (error : SyntaxError) : Prop :=
  error.input = text ∧ ∃ lexeme : Lexeme, lexeme.StandsIn text lexemes ∧
    error.offset = lexeme.span.start ∧ error.token = lexeme.token.text

/-- The tokens of a text, and the errors that its steps may fail with.  All errors at these tokens
are among them, other than those about aliases that are being expanded already. -/
structure Contract where
  text : String
  lexemes : List Lexeme
  faulty : SyntaxError → Prop
  plain : ∀ ⦃error : SyntaxError⦄, error.cause.isRecursiveAlias = false →
    error.PointsAt text lexemes → faulty error

namespace Contract

variable {contract : Contract} {α β : Type} {holds weaker : α → Prop} {holds' : β → Prop}

/-- A place in the text. -/
def Inside (contract : Contract) (cursor : Cursor) : Prop :=
  cursor.input = contract.text ∧ cursor.rest <:+ contract.lexemes

theorem Inside.reaches {cursor after : Cursor} (inside : contract.Inside cursor)
    (reaches : cursor.Reaches after) : contract.Inside after := by
  obtain ⟨same, taken, rest, _⟩ := reaches
  exact ⟨same.trans inside.1, List.IsSuffix.trans ⟨taken, rest.symm⟩ inside.2⟩

theorem Inside.current_mem {cursor : Cursor} (inside : contract.Inside cursor)
    (more : cursor.atEnd = false) : cursor.current ∈ contract.lexemes := by
  have here : cursor.current ∈ cursor.rest := by
    rw [Cursor.rest_eq_of_atEnd more]
    exact List.mem_cons_self
  exact inside.2.subset here

/-- One of the tokens of the text, or its end. -/
def Has (contract : Contract) (lexeme : Lexeme) : Prop :=
  lexeme.StandsIn contract.text contract.lexemes

theorem Inside.has_current {cursor : Cursor} (inside : contract.Inside cursor) :
    contract.Has cursor.current := by
  obtain ⟨same, suffix⟩ := inside
  unfold Cursor.current Cursor.lexemeAt
  cases left : cursor.rest with
  | nil => exact .inr (by rw [← same]; rfl)
  | cons lexeme rest =>
      rw [left] at suffix
      exact .inl (suffix.subset List.mem_cons_self)

/-- An error at a token is an error of the contract. -/
theorem Inside.faulty_errorAt {cursor : Cursor} {lexeme : Lexeme} {cause : SyntaxError.Cause}
    (inside : contract.Inside cursor) (has : contract.Has lexeme)
    (unrelated : cause.isRecursiveAlias = false) :
    contract.faulty (cursor.errorAt lexeme cause) :=
  contract.plain unrelated ⟨inside.1, lexeme, has, rfl, rfl⟩

/-- A construction gives what satisfies the condition, or an error of the contract. -/
def Makes (contract : Contract) (holds : α → Prop) : Except SyntaxError α → Prop
  | .ok value => holds value
  | .error error => contract.faulty error

/-- A construction fails for nothing but its own parts, outside of any text. -/
def Builds (holds : α → Prop) : Except SyntaxError α → Prop
  | .ok value => holds value
  | .error error => error.cause.isRecursiveAlias = false ∧ error.input = ""

/-- An error of a construction is at the token where it is placed. -/
theorem Inside.pointsAt_locateAt {cursor : Cursor} {lexeme : Lexeme} {error : SyntaxError}
    (inside : contract.Inside cursor) (has : contract.Has lexeme)
    (unrelated : error.cause.isRecursiveAlias = false) (unplaced : error.input = "") :
    (cursor.locateAt lexeme error).cause.isRecursiveAlias = false ∧
      (cursor.locateAt lexeme error).PointsAt contract.text contract.lexemes := by
  unfold Cursor.locateAt SyntaxError.locate
  rw [if_pos (unplaced ▸ rfl)]
  exact ⟨unrelated, inside.1, lexeme, has, rfl, rfl⟩

/-- From a place, the step gives what satisfies the condition at a place it reaches, or an error of
the contract. -/
def Ends (contract : Contract) (holds : α → Prop) (cursor : Cursor) (step : Parse α) : Prop :=
  match step cursor with
  | .ok value after => cursor.Reaches after ∧ holds value
  | .error error _ => contract.faulty error

/-- The step ends as the contract says from everywhere in the text. -/
def Meets (contract : Contract) (holds : α → Prop) (step : Parse α) : Prop :=
  ∀ ⦃cursor⦄, contract.Inside cursor → contract.Ends holds cursor step

theorem Makes.bind {outcome : Except SyntaxError α} {next : α → Except SyntaxError β}
    (first : contract.Makes holds outcome)
    (later : ∀ value, holds value → contract.Makes holds' (next value)) :
    contract.Makes holds' (outcome >>= next) := by
  cases outcome with
  | ok value => exact later value first
  | error error => exact first

namespace Ends

variable {cursor between : Cursor} {step : Parse α}

theorem imp (ends : contract.Ends holds cursor step)
    (implies : ∀ value, holds value → weaker value) : contract.Ends weaker cursor step := by
  unfold Ends at ends ⊢
  cases run : step cursor with
  | ok value after =>
      rw [run] at ends
      exact ⟨ends.1, implies value ends.2⟩
  | error error after =>
      rw [run] at ends
      exact ends

/-- What is reached from a later place is reached from an earlier one. -/
theorem behind (ends : contract.Ends holds between step) (reaches : cursor.Reaches between) :
    match step between with
    | .ok value after => cursor.Reaches after ∧ holds value
    | .error error _ => contract.faulty error := by
  unfold Ends at ends
  cases run : step between with
  | ok value after =>
      rw [run] at ends
      exact ⟨reaches.trans ends.1, ends.2⟩
  | error error after =>
      rw [run] at ends
      exact ends

/-- Looking at the cursor takes nothing. -/
theorem look {next : Cursor → Parse α} (ends : contract.Ends holds cursor (next cursor)) :
    contract.Ends holds cursor (MonadStateOf.get >>= next) :=
  ends

theorem bind {next : α → Parse β} (inside : contract.Inside cursor)
    (first : contract.Ends holds cursor step)
    (later : ∀ value, holds value → contract.Meets holds' (next value)) :
    contract.Ends holds' cursor (step >>= next) := by
  unfold Ends at first ⊢
  cases run : step cursor with
  | error error after =>
      rw [run] at first
      rw [EStateM.bind_of_error run]
      exact first
  | ok value between =>
      rw [run] at first
      rw [EStateM.bind_of_ok run]
      exact (later value first.2 (inside.reaches first.1)).behind first.1

/-- A token that is no brace is taken. -/
theorem advance (inside : contract.Inside cursor)
    (no_brace : cursor.current.token.isBrace = false) :
    contract.Ends (· = cursor.current) cursor Parse.advance := by
  unfold Ends
  rcases Parse.advance_cases cursor with ⟨after, run, rest, input⟩ | ⟨cause, after, run, plain⟩
  · rw [run]
    exact ⟨⟨input, [cursor.current], rest, .singleton no_brace⟩, rfl⟩
  · rw [run]
    exact inside.faulty_errorAt inside.has_current plain

end Ends

namespace Meets

variable {step : Parse α}

theorem pure {value : α} (here : holds value) : contract.Meets holds (Pure.pure value) :=
  fun cursor _ => ⟨.refl cursor, here⟩

theorem imp (meets : contract.Meets holds step) (implies : ∀ value, holds value → weaker value) :
    contract.Meets weaker step :=
  fun _ inside => (meets inside).imp implies

theorem bind {next : α → Parse β} (first : contract.Meets holds step)
    (later : ∀ value, holds value → contract.Meets holds' (next value)) :
    contract.Meets holds' (step >>= next) :=
  fun _ inside => (first inside).bind inside later

/-- What a step gives need not matter to what comes behind it. -/
theorem andThen {next : α → Parse β} (first : contract.Meets holds step)
    (later : ∀ value, contract.Meets holds' (next value)) :
    contract.Meets holds' (step >>= next) :=
  first.bind fun value _ => later value

/-! ### Looking at the cursor -/

/-- What comes next is known where one looks. -/
theorem get_bind {next : Cursor → Parse β}
    (later : ∀ cursor, contract.Inside cursor → contract.Ends holds' cursor (next cursor)) :
    contract.Meets holds' (MonadStateOf.get >>= next) :=
  fun cursor inside => .look (later cursor inside)

theorem look : contract.Meets contract.Inside (MonadStateOf.get : Parse Cursor) :=
  fun cursor inside => ⟨.refl cursor, inside⟩

theorem current : contract.Meets contract.Has Parse.current :=
  fun cursor inside => ⟨.refl cursor, inside.has_current⟩

theorem turns : contract.Meets (fun _ => True) Parse.turns :=
  fun cursor _ => ⟨.refl cursor, trivial⟩

/-! ### Failures and constructions -/

section

variable {cause : SyntaxError.Cause} (unrelated : cause.isRecursiveAlias = false)
include unrelated

theorem fail : contract.Meets holds (Parse.fail cause : Parse α) :=
  fun _ inside => inside.faulty_errorAt inside.has_current unrelated

theorem failAt {lexeme : Lexeme} (has : contract.Has lexeme) :
    contract.Meets holds (Parse.failAt lexeme cause : Parse α) :=
  fun _ inside => inside.faulty_errorAt has unrelated

end

theorem located {lexeme : Lexeme} {outcome : Except SyntaxError α} (has : contract.Has lexeme)
    (builds : Builds holds outcome) : contract.Meets holds (Parse.located lexeme outcome) := by
  cases outcome with
  | ok value => exact pure builds
  | error error =>
      intro cursor inside
      obtain ⟨plain, points⟩ := inside.pointsAt_locateAt has builds.1 builds.2
      exact contract.plain plain points

theorem lift {outcome : Except SyntaxError α} (makes : contract.Makes holds outcome) :
    contract.Meets holds (Parse.lift outcome) := by
  cases outcome with
  | ok value => exact pure makes
  | error error => exact fun _ _ => makes

/-! ### Taking tokens -/

section

variable {mark : Punctuation} (no_brace : (Token.punctuation mark).isBrace = false)
include no_brace

theorem expectMark : contract.Meets (fun _ => True) (Parse.expectMark mark) := by
  refine get_bind fun cursor inside => ?_
  dsimp only
  split
  next same =>
    have seen := Token.isMark_eq_true_iff.mp same
    exact (Ends.advance inside (seen ▸ no_brace)).imp fun _ _ => trivial
  · exact fail rfl inside

theorem eatMark : contract.Meets (fun _ => True) (Parse.eatMark mark) := by
  refine get_bind fun cursor inside => ?_
  split
  next same =>
    have seen := Token.isMark_eq_true_iff.mp same
    exact (Ends.advance inside (seen ▸ no_brace)).bind inside fun _ _ => pure trivial
  · exact pure trivial inside

theorem following (each : contract.Meets holds step) (turns : Nat) :
    contract.Meets (∀ value ∈ ·, holds value) (Parse.following mark step turns) := by
  induction turns with
  | zero => exact pure fun _ nothing => nomatch nothing
  | succ turns ih =>
      refine andThen (eatMark no_brace) fun eaten => ?_
      cases eaten with
      | false => exact pure fun _ nothing => nomatch nothing
      | true =>
          refine each.bind fun first here => ih.bind fun others later => ?_
          exact pure (List.forall_mem_cons.mpr ⟨here, later⟩)

end

theorem takeWord_at {cursor : Cursor} (inside : contract.Inside cursor) :
    contract.Ends (cursor.current.token = .word ·) cursor Parse.takeWord := by
  refine Ends.look ?_
  dsimp only
  split
  next text seen =>
    refine (Ends.advance inside (by rw [seen]; rfl)).bind inside fun word _ => pure ?_
    exact seen
  · exact fail rfl inside

theorem takeWord : contract.Meets (fun _ => True) Parse.takeWord :=
  fun _ inside => (takeWord_at inside).imp fun _ _ => trivial

/-- A word is taken that is one of the tokens of the text. -/
theorem word_bind {next : Lexeme → String → Parse β}
    (later : ∀ lexeme ∈ contract.lexemes, ∀ word, lexeme.token = .word word →
      contract.Meets holds' (next lexeme word)) :
    contract.Meets holds' (do
      let lexeme ← Parse.current
      let word ← Parse.takeWord
      next lexeme word) := by
  intro cursor inside
  change contract.Ends holds' cursor (Parse.takeWord >>= next cursor.current)
  refine (takeWord_at inside).bind inside fun word seen => later _ (inside.current_mem ?_) _ seen
  rw [Cursor.atEnd, seen]
  rfl

/-- Steps between braces, whose number of turns is known first. -/
theorem braces {inner : Nat → Parse α} {next : Lexeme → α → Parse β}
    (within : ∀ turns, contract.Meets holds (inner turns))
    (later : ∀ lexeme value, contract.Has lexeme → holds value →
      contract.Meets holds' (next lexeme value)) :
    contract.Meets holds' (do
      let lexeme ← Parse.expectMark .openBrace
      let value ← inner (← Parse.turns)
      let _ ← Parse.expectMark .closeBrace
      next lexeme value) := by
  intro cursor inside
  unfold Ends
  rcases Parse.expectMark_cases .openBrace cursor with
    ⟨opening, opened, run, opens, rest, same⟩ | ⟨cause, after, run, plain⟩
  case inr =>
    rw [EStateM.bind_of_error run]
    exact inside.faulty_errorAt inside.has_current plain
  have inside' : contract.Inside opened := by
    refine ⟨same.trans inside.1, List.IsSuffix.trans ?_ inside.2⟩
    rw [rest]
    exact List.suffix_cons _ _
  have turns : Parse.turns opened = .ok opened.rest.length opened := rfl
  have first := within opened.rest.length inside'
  unfold Ends at first
  rw [EStateM.bind_of_ok run, EStateM.bind_of_ok turns]
  cases run' : inner opened.rest.length opened with
  | error error after =>
      rw [run'] at first
      rw [EStateM.bind_of_error run']
      exact first
  | ok value between =>
      rw [run'] at first
      rw [EStateM.bind_of_ok run']
      obtain ⟨⟨same', taken, rest', balanced⟩, here⟩ := first
      rcases Parse.expectMark_cases .closeBrace between with
        ⟨closing, closed, run'', closes, rest'', same''⟩ | ⟨cause, after, run'', plain⟩
      case inr =>
        have inside'' : contract.Inside between := inside'.reaches ⟨same', taken, rest', balanced⟩
        rw [EStateM.bind_of_error run'']
        exact inside''.faulty_errorAt inside''.has_current plain
      have reaches : cursor.Reaches closed := by
        refine ⟨same''.trans (same'.trans same), opening :: (taken ++ [closing]), ?_, ?_⟩
        · rw [rest, rest', rest'']
          simp
        · rw [List.map_cons, List.map_append, List.map_singleton, opens, closes]
          exact .braces balanced .nil
      have has : contract.Has opening := .inl (inside.2.subset (rest ▸ List.mem_cons_self))
      rw [EStateM.bind_of_ok run'']
      exact (later opening value has here (inside.reaches reaches)).behind reaches

end Meets

end Contract

end Schemata
