import Schemata.Parser.Rule
import Schemata.Proofs.Parser.SideBySide

/-!
# Inputs that part

Two inputs with tokens in common, behind which one goes on with a word or ends, and the other goes
on with a parenthesis.  Steps that take or look at single tokens do the same on both as long as no
parenthesis and no word at that place matters to them.
-/

namespace Schemata

/-- What stands before and behind a word that names a type: it is no constant of a class, no bound
of an integer, no name of a property and no class with a constant, and it opens no struct. -/
structure Token.IsTypePlace (earlier later : List Token) : Prop where
  not_constant : ¬ [.punctuation .doubleColon] <:+ earlier
  not_lower : ¬ [.word "int", .punctuation .less] <:+ earlier
  not_upper : ∀ bound, ¬ [.word "int", .punctuation .less, bound, .punctuation .comma] <:+ earlier
  not_owner : ∀ mark ∈ [Punctuation.colon, .doubleColon, .question, .openBrace],
    later.head? ≠ some (.punctuation mark)

def Punctuation.IsParen (mark : Punctuation) : Prop :=
  mark = .openParen ∨ mark = .closeParen

theorem Punctuation.isParen_openParen : Punctuation.openParen.IsParen := .inl rfl

theorem Punctuation.isParen_closeParen : Punctuation.closeParen.IsParen := .inr rfl

/-- Two runs of tokens that have their beginning in common, or are the same. -/
structure Parting where
  /-- Whether there is a place where they part. -/
  parts : Prop
  common : List Token
  /-- What the first one goes on with. -/
  first : Token
  later : List Token
  /-- What the second one goes on with. -/
  paren : Punctuation
  later' : List Token
  /-- Whether what is left of both can be the same again. -/
  rejoins : Prop
  first_open : first = .endOfInput ∨
    (∃ word, first = .word word) ∧ Token.IsTypePlace common later
  is_paren : paren.IsParen
  shorter : later.length ≤ later'.length

namespace Parting

variable {α β : Type} {parting : Parting} {past : List Token} {cursor cursor' : Cursor}

/-- Places behind some tokens that both inputs have in common: with more of them ahead, or where
what is left is the same and ends. -/
inductive At (parting : Parting) (past : List Token) (cursor cursor' : Cursor) : Prop where
  | before (parts : parting.parts) (ahead : List Token) (inside : past ++ ahead <:+ parting.common)
      (here : cursor.tokens = ahead ++ parting.first :: parting.later)
      (here' : cursor'.tokens = ahead ++ .punctuation parting.paren :: parting.later')
  | behind (rejoins : parting.rejoins) (ends : .endOfInput ∈ cursor.tokens)
      (same : cursor.tokens = cursor'.tokens)

/-- Places where the inputs part. -/
def AtGap (parting : Parting) (cursor cursor' : Cursor) : Prop :=
  parting.parts ∧ cursor.tokens = parting.first :: parting.later ∧
    cursor'.tokens = .punctuation parting.paren :: parting.later'

/-- Places where the next token is the same. -/
def AtToken (parting : Parting) (past : List Token) (cursor cursor' : Cursor) : Prop :=
  parting.At past cursor cursor' ∧ cursor.current.token = cursor'.current.token

/-- The same value at places of both inputs. -/
def Same (parting : Parting) (value value' : α) (cursor cursor' : Cursor) : Prop :=
  value' = value ∧ parting.At [] cursor cursor'

/-- Steps that give the same value. -/
def Keeps (parting : Parting) (step step' : Parse α) : Prop :=
  Parse.Follows (parting.At []) step step' parting.Same

theorem At.forget (here : parting.At past cursor cursor') : parting.At [] cursor cursor' := by
  cases here with
  | before parts ahead inside here here' =>
      exact .before parts ahead ((List.suffix_append past ahead).trans inside) here here'
  | behind rejoins ends same => exact .behind rejoins ends same

theorem first_ne_punctuation (parting : Parting) (mark : Punctuation) :
    parting.first ≠ .punctuation mark := by
  rcases parting.first_open with same | ⟨⟨word, same⟩, _⟩ <;> simp [same]

theorem At.length_le (here : parting.At past cursor cursor') :
    cursor.rest.length ≤ cursor'.rest.length := by
  have lengths (cursor : Cursor) : cursor.rest.length = cursor.tokens.length := by
    rw [Cursor.tokens, List.length_map]
  rw [lengths cursor, lengths cursor']
  cases here with
  | before parts ahead _ here here' =>
      have shorter := parting.shorter
      simp only [here, here', List.length_append, List.length_cons]
      omega
  | behind _ _ same => exact Nat.le_of_eq (congrArg List.length same)

theorem At.length_pos (here : parting.At past cursor cursor') : 0 < cursor.rest.length := by
  have some_tokens : cursor.tokens ≠ [] := by
    cases here with
    | before _ ahead _ here _ => simp [here]
    | behind _ ends _ => exact List.ne_nil_of_mem ends
  have positive := List.length_pos_iff.mpr some_tokens
  rwa [Cursor.tokens, List.length_map] at positive

/-- A token that is neither a word nor the end stands in both inputs. -/
theorem At.token_eq_of_ne (here : parting.At past cursor cursor')
    (not_first : cursor.current.token ≠ parting.first) :
    cursor.current.token = cursor'.current.token := by
  rw [cursor.token_current_eq, cursor'.token_current_eq]
  cases here with
  | before parts ahead _ here here' =>
      cases ahead with
      | nil =>
          rw [cursor.token_current_eq, here] at not_first
          exact absurd rfl not_first
      | cons token ahead =>
          rw [here, here']
          rfl
  | behind _ _ same => rw [same]

/-- Where the next token is not the same, the inputs part. -/
theorem At.parts (here : parting.At past cursor cursor')
    (apart : cursor.current.token ≠ cursor'.current.token) :
    past <:+ parting.common ∧ parting.AtGap cursor cursor' := by
  cases here with
  | before parts ahead inside here here' =>
      cases ahead with
      | nil =>
          rw [List.append_nil] at inside
          exact ⟨inside, parts, here, here'⟩
      | cons token ahead =>
          refine absurd ?_ apart
          rw [cursor.token_current_eq, cursor'.token_current_eq, here, here']
          rfl
  | behind _ _ same =>
      refine absurd ?_ apart
      rw [cursor.token_current_eq, cursor'.token_current_eq, same]

def IsPlain (mark : Punctuation) : Prop :=
  mark ≠ .openParen ∧ mark ≠ .closeParen

instance (mark : Punctuation) : Decidable (IsPlain mark) :=
  inferInstanceAs (Decidable (_ ∧ _))

theorem paren_ne_of_isPlain (parting : Parting) {mark : Punctuation} (plain : IsPlain mark) :
    parting.paren ≠ mark := by
  rintro rfl
  rcases parting.is_paren with same | same
  · exact plain.1 same
  · exact plain.2 same

/-- A mark that is no parenthesis stands in both inputs or in none. -/
theorem At.isMark_eq (here : parting.At past cursor cursor') {mark : Punctuation}
    (plain : IsPlain mark) :
    cursor.current.token.isMark mark = cursor'.current.token.isMark mark := by
  by_cases same : cursor.current.token = cursor'.current.token
  · rw [same]
  · obtain ⟨_, _, tokens, tokens'⟩ := here.parts same
    rw [cursor.token_current_eq, cursor'.token_current_eq, tokens, tokens', Bool.eq_iff_iff,
      Token.isMark_eq_true_iff, Token.isMark_eq_true_iff]
    have other := parting.first_ne_punctuation mark
    have other' := parting.paren_ne_of_isPlain plain
    simp [other, other']

theorem token_eq_of_isWord {word : String} (found : cursor.isWord word = true) :
    cursor.current.token = .word word := by
  unfold Cursor.isWord Cursor.word? at found
  split at found
  next text seen => rw [seen, Option.some.inj (eq_of_beq found)]
  · exact absurd found (by simp)

/-- A token stands in both inputs behind tokens that no type stands behind. -/
theorem At.atToken (here : parting.At past cursor cursor')
    (closed : Token.IsTypePlace parting.common parting.later → ¬ past <:+ parting.common)
    (more : cursor.current.token ≠ .endOfInput) : parting.AtToken past cursor cursor' := by
  refine ⟨here, Classical.byContradiction fun apart => ?_⟩
  obtain ⟨inside, _, tokens, _⟩ := here.parts apart
  rcases parting.first_open with ends | ⟨_, place⟩
  · rw [cursor.token_current_eq, tokens] at more
    exact more ends
  · exact closed place inside

theorem AtToken.word?_eq (start : parting.AtToken past cursor cursor') :
    cursor'.word? = cursor.word? := by
  rw [Cursor.word?, Cursor.word?, start.2]

theorem AtToken.isWord_eq (start : parting.AtToken past cursor cursor') (word : String) :
    cursor'.isWord word = cursor.isWord word := by
  rw [Cursor.isWord, Cursor.isWord, start.word?_eq]

/-- Up to the place where the inputs part, a mark that is no parenthesis stands in both or in
none. -/
theorem hasMarkAt_eq_of_le {ahead : List Token}
    (here : cursor.tokens = ahead ++ parting.first :: parting.later)
    (here' : cursor'.tokens = ahead ++ .punctuation parting.paren :: parting.later')
    {mark : Punctuation} (plain : IsPlain mark) {places : Nat} (inside : places ≤ ahead.length) :
    cursor'.hasMarkAt places mark = cursor.hasMarkAt places mark := by
  rw [Bool.eq_iff_iff, Cursor.hasMarkAt_eq_true_iff, Cursor.hasMarkAt_eq_true_iff, here, here']
  rcases Nat.lt_or_eq_of_le inside with within_ | rfl
  · rw [List.getElem?_append_left within_, List.getElem?_append_left within_]
  · have other := parting.first_ne_punctuation mark
    have other' := parting.paren_ne_of_isPlain plain
    simp [other, other']

theorem hasMarkAt_eq_of_tokens_eq (same : cursor.tokens = cursor'.tokens) (places : Nat)
    (mark : Punctuation) : cursor'.hasMarkAt places mark = cursor.hasMarkAt places mark := by
  rw [Cursor.hasMarkAt, Cursor.tokenAt_eq, ← same, ← Cursor.tokenAt_eq]
  rfl

theorem At.hasMarkAt_zero_eq (here : parting.At past cursor cursor') {mark : Punctuation}
    (plain : IsPlain mark) : cursor'.hasMarkAt 0 mark = cursor.hasMarkAt 0 mark :=
  (here.isMark_eq plain).symm

/-- The token behind the next one. -/
theorem AtToken.hasMarkAt_one_eq (start : parting.AtToken past cursor cursor')
    (mark : Punctuation) (plain : IsPlain mark) :
    cursor'.hasMarkAt 1 mark = cursor.hasMarkAt 1 mark := by
  obtain ⟨here, same⟩ := start
  cases here with
  | before parts ahead _ here here' =>
      cases ahead with
      | nil =>
          rw [cursor.token_current_eq, cursor'.token_current_eq, here, here'] at same
          exact absurd same (parting.first_ne_punctuation _)
      | cons _ ahead =>
          exact hasMarkAt_eq_of_le here here' plain (Nat.succ_le_succ (Nat.zero_le _))
  | behind _ _ tokens => exact hasMarkAt_eq_of_tokens_eq tokens 1 mark

theorem Keeps.from_past {step step' : Parse α} (keeps : parting.Keeps step step') :
    Parse.Follows (parting.At past) step step' fun value value' after after' =>
      value' = value ∧ parting.At [] after after' :=
  keeps.of_start fun _ _ here => here.forget

end Parting

namespace Parse.Follows

open Parting

variable {parting : Parting} {past : List Token}

/-- The next token is taken from both inputs. -/
theorem takes {cursor cursor' : Cursor} {token : Token}
    (start : parting.AtToken past cursor cursor')
    (seen : cursor.current.token = token) {bound : Nat} (few : cursor.rest.length ≤ bound + 1) :
    Follows (fun here here' => here = cursor ∧ here' = cursor') Parse.advance Parse.advance
      fun lexeme lexeme' after after' => (lexeme.token = token ∧ lexeme'.token = token) ∧
        after.rest.length ≤ bound ∧ parting.At (past ++ [token]) after after' := by
  intro first first' places lexeme after run
  obtain ⟨rfl, rfl⟩ := places
  obtain ⟨here, same⟩ := start
  obtain ⟨more, rfl, rfl⟩ := advance_eq_ok_iff.mp run
  have more' : first'.atEnd = false := by
    rw [Cursor.atEnd, ← same]
    exact more
  have some_tokens : first.rest ≠ [] := by
    intro none
    simp [Cursor.atEnd, Cursor.current, Cursor.lexemeAt, Cursor.endLexeme, none,
      Token.isSame] at more
  have fewer : (first.rest.drop 1).length < first.rest.length := by
    have positive := List.length_pos_iff.mpr some_tokens
    rw [List.length_drop]
    omega
  refine ⟨Nat.le_of_lt fewer, first'.current, _,
    advance_eq_ok_iff.mpr ⟨more', rfl, rfl⟩, ⟨seen, same.symm.trans seen⟩,
    Nat.le_of_lt_succ (Nat.lt_of_lt_of_le fewer few), ?_⟩
  have tail (cursor : Cursor) :
      Cursor.tokens { cursor with rest := cursor.rest.drop 1 } = cursor.tokens.drop 1 := by
    rw [Cursor.tokens, List.map_drop, Cursor.tokens]
  cases here with
  | before parts ahead inside tokens tokens' =>
      cases ahead with
      | nil =>
          rw [first.token_current_eq, first'.token_current_eq, tokens, tokens'] at same
          exact absurd same (parting.first_ne_punctuation _)
      | cons found ahead =>
          obtain rfl : found = token := by
            rw [← seen, first.token_current_eq, tokens]
            rfl
          refine .before parts ahead ?_ ?_ ?_
          · rwa [List.append_assoc]
          · rw [tail, tokens]
            rfl
          · rw [tail, tokens']
            rfl
  | behind rejoins ends tokens =>
      refine .behind rejoins ?_ (by rw [tail, tail, tokens])
      rw [tail]
      cases all : first.tokens with
      | nil => simp [all] at ends
      | cons found rest =>
          have not_end : found ≠ .endOfInput := by
            rintro rfl
            rw [Cursor.atEnd, first.token_current_eq, all] at more
            cases more
          rw [all] at ends
          exact List.mem_of_ne_of_mem not_end.symm ends

/-- The word the cursor stands at. -/
theorem takesWord {cursor cursor' : Cursor} {word : String}
    (start : parting.AtToken past cursor cursor') (seen : cursor.current.token = .word word) :
    Follows (fun here here' => here = cursor ∧ here' = cursor') Parse.takeWord Parse.takeWord
      fun found found' after after' =>
        found' = found ∧ found = word ∧ parting.At (past ++ [Token.word word]) after after' := by
  refine get_bind fun here here' places => ?_
  obtain ⟨rfl, rfl⟩ := places
  rw [← start.2, seen]
  refine (takes start seen (Nat.le_succ _)).bind fun _ _ => pure ?_
  exact fun _ _ there => ⟨rfl, rfl, there.2.2⟩

theorem takeWord :
    Follows (parting.AtToken past) Parse.takeWord Parse.takeWord fun word word' after after' =>
      word' = word ∧ parting.At (past ++ [Token.word word]) after after' := by
  refine get_bind fun cursor cursor' start => ?_
  dsimp only
  rw [← start.2]
  split
  next text seen =>
    refine (takes start seen (Nat.le_succ _)).bind fun _ _ => pure ?_
    exact fun _ _ there => ⟨rfl, there.2.2⟩
  · exact fail

/-- Behind tokens that no type stands behind, a token other than the end is the same in both
inputs. -/
theorem get_bind_of_closed {α α' : Type} {next : Cursor → Parse α} {next' : Cursor → Parse α'}
    {behind : α → α' → Cursor → Cursor → Prop}
    (closed : Token.IsTypePlace parting.common parting.later → ¬ past <:+ parting.common)
    (ends : ∀ cursor, cursor.current.token = .endOfInput → ∀ value after,
      next cursor cursor ≠ .ok value after)
    (later : ∀ cursor cursor', parting.AtToken past cursor cursor' →
      Follows (fun here here' => here = cursor ∧ here' = cursor') (next cursor) (next' cursor')
        behind) :
    Follows (parting.At past) (MonadStateOf.get >>= next) (MonadStateOf.get >>= next') behind := by
  refine get_bind fun cursor cursor' here => ?_
  by_cases last : cursor.current.token = .endOfInput
  · rintro _ _ ⟨rfl, rfl⟩ value after run
    exact absurd run (ends _ last value after)
  · exact later cursor cursor' (here.atToken closed last)

/-- An expected mark stands in both inputs. -/
theorem expectMark (mark : Punctuation) :
    Follows (parting.At past) (Parse.expectMark mark) (Parse.expectMark mark)
      fun _ _ => parting.At (past ++ [Token.punctuation mark]) := by
  refine get_bind fun cursor cursor' start => ?_
  dsimp only
  cases found : cursor.current.token.isSame (.punctuation mark) with
  | false =>
      rw [if_neg (by decide)]
      exact fail
  | true =>
      have seen := Token.isMark_eq_true_iff.mp found
      have same := start.token_eq_of_ne (by
        rw [seen]
        exact (parting.first_ne_punctuation mark).symm)
      rw [← same, found, if_pos rfl]
      exact (takes ⟨start, same⟩ seen (Nat.le_succ _)).mono (fun _ _ => id)
        fun _ _ _ _ there => there.2.2

/-- A mark that comes next in both inputs or in none is taken or not. -/
theorem eatMark_of_eq {before : Cursor → Cursor → Prop} {mark : Punctuation}
    (inside : ∀ cursor cursor', before cursor cursor' → parting.At past cursor cursor')
    (equal : ∀ cursor cursor', before cursor cursor' →
      cursor.current.token.isMark mark = cursor'.current.token.isMark mark) (bound : Nat) :
    Follows (fun cursor cursor' => cursor.rest.length ≤ bound + 1 ∧ before cursor cursor')
      (Parse.eatMark mark) (Parse.eatMark mark)
      fun eaten eaten' after after' => eaten' = eaten ∧
        if eaten then
          after.rest.length ≤ bound ∧ parting.At (past ++ [Token.punctuation mark]) after after'
        else after.rest.length ≤ bound + 1 ∧ before after after' := by
  refine get_bind fun cursor cursor' start => ?_
  obtain ⟨few, start⟩ := start
  have both : cursor.current.token.isSame _ = cursor'.current.token.isSame _ := equal _ _ start
  rw [← both]
  cases found : cursor.current.token.isSame (.punctuation mark) with
  | false =>
      refine pure ?_
      rintro _ _ ⟨rfl, rfl⟩
      exact ⟨rfl, few, start⟩
  | true =>
      have seen := Token.isMark_eq_true_iff.mp found
      have here := inside _ _ start
      have same := here.token_eq_of_ne (by
        rw [seen]
        exact (parting.first_ne_punctuation mark).symm)
      refine (takes ⟨here, same⟩ seen few).bind fun _ _ => pure ?_
      exact fun _ _ there => ⟨rfl, there.2⟩

/-- What holds below every bound on the number of tokens that are left holds without one. -/
theorem of_bounded {α α' : Type} {before : Cursor → Cursor → Prop} {step : Parse α}
    {step' : Parse α'} {behind : α → α' → Cursor → Cursor → Prop}
    (follows : ∀ bound, Follows
      (fun cursor cursor' => cursor.rest.length ≤ bound + 1 ∧ before cursor cursor') step step'
      behind) : Follows before step step' behind :=
  fun cursor _ start => follows cursor.rest.length ⟨Nat.le_succ _, start⟩

theorem eatMark {mark : Punctuation} (plain : IsPlain mark) (bound : Nat) :
    Follows (fun cursor cursor' => cursor.rest.length ≤ bound + 1 ∧ parting.At past cursor cursor')
      (Parse.eatMark mark) (Parse.eatMark mark)
      fun eaten eaten' after after' => eaten' = eaten ∧
        if eaten then
          after.rest.length ≤ bound ∧ parting.At (past ++ [Token.punctuation mark]) after after'
        else after.rest.length ≤ bound + 1 ∧ parting.At past after after' :=
  eatMark_of_eq (fun _ _ => id) (fun _ _ here => here.isMark_eq plain) bound

/-- Goes on with a bound on the number of turns of a loop. -/
theorem turns_bind {α α' : Type} {next : Nat → Parse α} {next' : Nat → Parse α'}
    {behind : α → α' → Cursor → Cursor → Prop}
    (later : ∀ turns turns', turns ≤ turns' → Follows
      (fun cursor cursor' => cursor.rest.length ≤ turns ∧ parting.At past cursor cursor')
      (next turns) (next' turns') behind) :
    Follows (parting.At past) (Parse.turns >>= next) (Parse.turns >>= next') behind :=
  fun _ _ start _ _ run => later _ _ start.length_le ⟨Nat.le_refl _, start⟩ run

/-- Some token is left, so the turns of a loop do not run out. -/
theorem of_none {α α' : Type} {step : Parse α} {step' : Parse α'}
    {behind : α → α' → Cursor → Cursor → Prop} :
    Follows (fun cursor cursor' => cursor.rest.length ≤ 0 ∧ parting.At past cursor cursor') step
      step' behind :=
  fun _ _ start => absurd start.2.length_pos (Nat.not_lt.mpr start.1)

/-- What follows each occurrence of a mark stands in both inputs. -/
theorem following {α : Type} {mark : Punctuation} (plain : IsPlain mark) {item item' : Parse α}
    (each : parting.Keeps item item') {turns turns' : Nat} (enough : turns ≤ turns') :
    Follows (fun cursor cursor' => cursor.rest.length ≤ turns ∧ parting.At past cursor cursor')
      (Parse.following mark item turns) (Parse.following mark item' turns') parting.Same := by
  induction turns generalizing turns' past with
  | zero => exact of_none
  | succ turns ih =>
      obtain ⟨turns', rfl⟩ : ∃ more, turns' = more + 1 := ⟨turns' - 1, by omega⟩
      refine (eatMark plain _).bind_same fun eaten => ?_
      cases eaten with
      | false => exact pure fun _ _ there => ⟨rfl, there.2.forget⟩
      | true =>
          refine (each.from_past.within turns).bind_same fun first => ?_
          refine (ih (Nat.le_of_succ_le_succ enough)).bind_same fun others => ?_
          exact pure fun _ _ there => ⟨rfl, there⟩

end Parse.Follows

end Schemata
