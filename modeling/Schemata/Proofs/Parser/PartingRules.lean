import Schemata.Parser.Grammar
import Schemata.Proofs.Parser.Parting

/-!
# Rules on inputs that part

Each rule of the language applies to both inputs or to none where the next token is the same, and it
reads the same node from both when the types it reads are the same.
-/

namespace Schemata

open Parse

/-- Two ways to read types that give the same nodes, at the places of a parting and for the texts of
declarations.  The second one may be within fewer declarations. -/
structure Parting.Reads (parting : Parting) (types types' : TypeReader) (site site' : Site) :
    Prop where
  registry : site'.registry = site.registry
  context : site'.context = site.context
  expanding : site'.expanding ⊆ site.expanding
  here : parting.Keeps (types site) (types' site')
  declared : ∀ expansion context text node,
    types.readDeclared site expansion context text = .ok node →
      types'.readDeclared site' expansion context text = .ok node

/-- The rule reads the same from inputs that part. -/
structure Rule.ReadsAlike (rule : Rule) : Prop where
  applies : ∀ {parting : Parting} {site site' : Site} {cursor cursor' : Cursor},
    site'.registry = site.registry → site'.context = site.context →
      parting.AtToken [] cursor cursor' → rule.applies site' cursor' = rule.applies site cursor
  read : ∀ {parting : Parting} {types types' : TypeReader} {site site' : Site},
    parting.Reads types types' site site' → ∀ {cursor cursor' : Cursor},
      rule.applies site cursor = true → parting.AtToken [] cursor cursor' →
        Follows (fun here here' => here = cursor ∧ here' = cursor') (rule.read types site)
          (rule.read types' site') parting.Same

namespace Parting

variable {parting : Parting} {types types' : TypeReader} {site site' : Site} {past : List Token}

theorem Reads.not_expanding (reads : parting.Reads types types' site site')
    {expansion : Expansion} (apart : ¬ site.expanding.contains expansion = true) :
    ¬ site'.expanding.contains expansion = true := by
  rw [List.contains_iff_mem] at apart ⊢
  exact fun inside => apart (reads.expanding inside)

/-- Looking for a mark that is no parenthesis, without a bound on the tokens. -/
theorem follows_eatMark {mark : Punctuation} (plain : IsPlain mark) :
    Follows (parting.At past) (Parse.eatMark mark) (Parse.eatMark mark)
      fun eaten eaten' after after' => eaten' = eaten ∧
        if eaten then parting.At (past ++ [Token.punctuation mark]) after after'
        else parting.At past after after' := by
  refine Follows.of_bounded fun bound => (Follows.eatMark plain bound).mono (fun _ _ => id) ?_
  rintro eaten eaten' after after' ⟨same, there⟩
  refine ⟨same, ?_⟩
  cases eaten with
  | true => exact there.2
  | false => exact there.2

/-- A node that is constructed behind some tokens. -/
theorem follows_located {α : Type} {lexeme lexeme' : Lexeme} {outcome : Except SyntaxError α} :
    Follows (parting.At past) (Parse.located lexeme outcome) (Parse.located lexeme' outcome)
      parting.Same :=
  Follows.located.mono (fun _ _ => id) fun _ _ _ _ there => ⟨there.1, there.2.forget⟩

/-- A word behind tokens that no type stands behind. -/
theorem follows_takeWord
    (closed : Token.IsTypePlace parting.common parting.later → ¬ past <:+ parting.common) :
    Follows (parting.At past) Parse.takeWord Parse.takeWord fun word word' after after' =>
      word' = word ∧ parting.At (past ++ [Token.word word]) after after' := by
  refine Follows.get_bind_of_closed closed ?_ fun cursor cursor' start => ?_
  · rintro cursor ends value after run
    rw [ends] at run
    exact fail_ne_ok run
  · rw [← start.2]
    dsimp only
    split
    next text seen =>
      refine (Follows.takes start seen (Nat.le_succ _)).bind fun _ _ => Follows.pure ?_
      exact fun _ _ there => ⟨rfl, there.2.2⟩
    · exact Follows.fail

theorem follows_lift {α : Type} {outcome outcome' : Except SyntaxError α}
    (same : ∀ value, outcome = .ok value → outcome' = .ok value) :
    Follows (parting.At past) (Parse.lift outcome) (Parse.lift outcome') parting.Same :=
  (Follows.lift same).mono (fun _ _ => id) fun _ _ _ _ there => ⟨there.1, there.2.forget⟩

theorem follows_pure {α : Type} {value : α} :
    Follows (parting.At past) (Pure.pure value) (Pure.pure value) parting.Same :=
  Follows.pure fun _ _ here => ⟨rfl, here.forget⟩

theorem follows_pure_or {α : Type} {value other : α} {condition : Prop} [Decidable condition] :
    Follows (parting.At past) (if condition then Pure.pure value else Pure.pure other)
      (if condition then Pure.pure value else Pure.pure other) parting.Same := by
  split
  · exact follows_pure
  · exact follows_pure

end Parting

namespace Rule

variable {parting : Parting} {types types' : TypeReader} {site site' : Site} {past : List Token}

open Parting

/-! ## Leaves -/

theorem readsAlike_keyword : keyword.ReadsAlike where
  applies _ _ start := by simp only [keyword, start.word?_eq]
  read _ _ _ _ start := by
    refine Follows.at_places start (Follows.current_bind fun _ _ => ?_)
    refine Follows.takeWord.bind_same fun word => ?_
    cases keywordType? word with
    | some node => exact follows_pure
    | none => exact Follows.failAt

theorem follows_intBound
    (closed : Token.IsTypePlace parting.common parting.later → ¬ past <:+ parting.common) :
    Follows (parting.At past) intBound intBound fun bound bound' after after' =>
      bound' = bound ∧ ∃ token, parting.At (past ++ [token]) after after' := by
  refine Follows.get_bind_of_closed closed ?_ fun cursor cursor' start => ?_
  · rintro cursor ends value after run
    rw [ends] at run
    exact fail_ne_ok run
  · have taken (token : Token) (seen : cursor.current.token = token) (value : Int64) :
        Follows (fun first first' => first = cursor ∧ first' = cursor')
          (Parse.advance >>= fun _ => Pure.pure value)
          (Parse.advance >>= fun _ => Pure.pure value)
          fun bound bound' after after' =>
            bound' = bound ∧ ∃ token, parting.At (past ++ [token]) after after' := by
      refine (Follows.takes start seen (Nat.le_succ _)).bind fun _ _ => Follows.pure ?_
      exact fun _ _ there => ⟨rfl, token, there.2.2⟩
    rw [← start.2]
    dsimp only
    split
    next value seen => exact taken _ seen value
    next seen => exact taken _ seen _
    next seen => exact taken _ seen _
    · exact Follows.fail

theorem readsAlike_int : int.ReadsAlike where
  applies _ _ start := by simp only [int, start.isWord_eq]
  read _ cursor cursor' found start := by
    have seen : cursor.current.token = .word "int" := token_eq_of_isWord found
    refine (Follows.takesWord start seen).bind_same fun _ => Follows.assume ?_
    rintro rfl
    refine (follows_eatMark (by decide)).bind_same fun eaten => ?_
    cases eaten with
    | false => exact follows_pure
    | true =>
        refine Follows.current_bind fun _ _ => ?_
        refine (follows_intBound fun place => place.not_lower).bind_same fun low => ?_
        rintro here here' ⟨token, there⟩
        refine ((Follows.expectMark _).bind fun _ _ => ?_) there
        refine (follows_intBound fun place => place.not_upper token).bind_same fun high => ?_
        rintro next next' ⟨_, there⟩
        refine ((Follows.expectMark _).bind fun _ _ => ?_) there
        split
        · exact Follows.failAt
        · exact follows_pure

theorem readsAlike_literal : literal.ReadsAlike where
  applies _ _ start := by simp only [literal, start.2]
  read _ _ _ _ start := by
    refine (Follows.takes start rfl (Nat.le_succ _)).bind fun lexeme lexeme' => ?_
    refine Follows.assume ?_
    rintro ⟨same, same'⟩
    rw [same, same']
    split
    · exact Follows.pure fun _ _ there => ⟨rfl, there.2.forget⟩
    · exact Follows.failAt

/-! ## Names -/

theorem follows_checkCase (registry : site'.registry = site.registry) {lexeme lexeme' : Lexeme}
    (value : Literal) :
    Follows (parting.At past) (checkCase site lexeme value) (checkCase site' lexeme' value)
      fun _ _ => parting.At past := by
  unfold checkCase
  rw [registry]
  split
  · split
    · exact Follows.pure fun _ _ => id
    · exact Follows.failAt
  · exact Follows.pure fun _ _ => id

theorem follows_addConstants (registry : site'.registry = site.registry) {lexeme lexeme' : Lexeme}
    (values : List Literal) (constants : List (String × Literal)) :
    Follows (parting.At past) (addConstants site lexeme values constants)
      (addConstants site' lexeme' values constants)
      fun found found' after after' => found' = found ∧ parting.At past after after' := by
  induction constants generalizing values with
  | nil => exact Follows.pure fun _ _ here => ⟨rfl, here⟩
  | cons constant rest ih =>
      refine (follows_checkCase registry constant.2).bind fun _ _ => ?_
      cases values.any (·.isEqual constant.2) with
      | true => exact ih values
      | false => exact ih (values ++ [constant.2])

theorem follows_oneOf {lexeme lexeme' : Lexeme} {pattern : String} (values : List Literal) :
    Follows (parting.At past) (oneOf lexeme pattern values) (oneOf lexeme' pattern values)
      parting.Same := by
  unfold oneOf
  split
  · exact Follows.failAt
  · exact follows_pure
  · exact follows_located

theorem follows_wildcard (registry : site'.registry = site.registry)
    {classLexeme classLexeme' constLexeme constLexeme' : Lexeme} {pattern : String}
    {start : List Char} (candidates : List String) :
    Follows (parting.At past) (wildcard site classLexeme constLexeme pattern start candidates)
      (wildcard site' classLexeme' constLexeme' pattern start candidates) parting.Same := by
  induction candidates with
  | nil => exact Follows.failAt
  | cons candidate rest ih =>
      unfold wildcard
      rw [registry]
      dsimp only
      refine (follows_addConstants registry _ _).bind_same fun values => ?_
      split
      · exact ih
      · exact follows_oneOf values

theorem follows_constant (registry : site'.registry = site.registry)
    {classLexeme classLexeme' constLexeme constLexeme' : Lexeme} {pattern name : String}
    (candidates : List String) :
    Follows (parting.At past) (constant site classLexeme constLexeme pattern name candidates)
      (constant site' classLexeme' constLexeme' pattern name candidates) parting.Same := by
  induction candidates with
  | nil => exact Follows.failAt
  | cons candidate rest ih =>
      unfold constant
      rw [registry]
      dsimp only
      split
      · exact follows_pure
      · split
        · exact (follows_checkCase registry _).bind fun _ _ => follows_pure
        · split
          · exact Follows.failAt
          · exact ih

theorem readsAlike_classConstant : classConstant.ReadsAlike where
  applies _ _ start := by
    simp only [classConstant, start.word?_eq, start.hasMarkAt_one_eq .doubleColon (by decide)]
  read reads _ _ _ start := by
    refine Follows.at_places start (Follows.current_bind fun _ _ => ?_)
    refine Follows.takeWord.bind_same fun className => (Follows.expectMark _).bind fun _ _ => ?_
    refine Follows.current_bind fun _ _ => ?_
    refine (follows_takeWord fun place inside => ?_).bind_same fun name => ?_
    · exact place.not_constant ((List.suffix_append ([] ++ [Token.word className]) _).trans inside)
    rw [reads.context]
    dsimp only
    split
    · exact follows_wildcard reads.registry _
    · exact follows_constant reads.registry _

theorem hasCandidate_eq {cursor cursor' : Cursor} (context : site'.context = site.context)
    (start : parting.AtToken past cursor cursor') (isKnown : String → Bool) :
    hasCandidate site' cursor' isKnown = hasCandidate site cursor isKnown := by
  unfold hasCandidate
  rw [start.word?_eq, context]

theorem readsAlike_enumeration : enumeration.ReadsAlike where
  applies registry context start := by
    simp only [enumeration, hasCandidate_eq context start, registry]
  read reads _ _ _ start := by
    refine Follows.at_places start (Follows.current_bind fun _ _ => ?_)
    refine Follows.takeWord.bind_same fun word => ?_
    rw [reads.context, reads.registry]
    dsimp only
    split
    · exact follows_pure
    · exact Follows.failAt

theorem readsAlike_dateTime : dateTime.ReadsAlike where
  applies registry context start := by
    simp only [dateTime, hasCandidate_eq context start, registry]
  read reads _ _ _ start := by
    refine Follows.at_places start (Follows.current_bind fun _ _ => ?_)
    refine Follows.takeWord.bind_same fun word => ?_
    rw [reads.context, reads.registry]
    dsimp only
    split
    · exact follows_pure
    · exact Follows.failAt

theorem alias?_eq (registry : site'.registry = site.registry)
    (context : site'.context = site.context) (word : String) :
    alias? site' word = alias? site word := by
  unfold alias?
  rw [registry, context]

/-- An alias that is expanded by the first way of reading is expanded by the second one. -/
theorem follows_expandAlias (reads : parting.Reads types types' site site')
    {lexeme lexeme' : Lexeme} (declaration : AliasDeclaration) :
    Follows (parting.At past) (expandAlias types site lexeme declaration)
      (expandAlias types' site' lexeme' declaration) parting.Same := by
  unfold expandAlias
  dsimp only
  split
  · exact Follows.failAt
  next apart =>
    rw [if_neg (reads.not_expanding apart)]
    refine follows_lift fun node success => ?_
    cases run : types.readDeclared site (.alias declaration.name) declaration.context
      declaration.body with
    | error error =>
        rw [run] at success
        cases success
    | ok found =>
        rw [run] at success
        rw [reads.declared _ _ _ _ run]
        exact success

theorem readsAlike_aliasName : aliasName.ReadsAlike where
  applies registry context start := by
    simp only [aliasName, start.word?_eq, alias?_eq registry context, context]
  read reads _ _ _ start := by
    refine Follows.at_places start (Follows.current_bind fun _ _ => ?_)
    refine Follows.takeWord.bind_same fun word => ?_
    rw [reads.context, alias?_eq reads.registry reads.context]
    split
    · exact follows_pure
    · split
      · exact follows_expandAlias reads _
      · exact Follows.failAt

/-! ## Lists, tuples and structs -/

/-- Whether a struct begins does not depend on what stands where the inputs part. -/
theorem atStruct_eq {cursor cursor' : Cursor} (start : parting.AtToken past cursor cursor') :
    atStruct cursor' = atStruct cursor := by
  unfold atStruct
  rw [start.isWord_eq, start.isWord_eq, start.hasMarkAt_one_eq _ (by decide)]
  obtain ⟨here, same⟩ := start
  cases here with
  | behind _ _ tokens =>
      simp only [Cursor.tokenAt_eq, hasMarkAt_eq_of_tokens_eq tokens, tokens]
  | before _ ahead inside here here' =>
      match ahead with
      | [] =>
          rw [cursor.token_current_eq, cursor'.token_current_eq, here, here'] at same
          exact absurd same (parting.first_ne_punctuation _)
      | [_] =>
          have absent : cursor.hasMarkAt 1 .openBrace = false := by
            rw [Bool.eq_false_iff, Ne, Cursor.hasMarkAt_eq_true_iff, here]
            exact fun found => parting.first_ne_punctuation _ (Option.some.inj found)
          rw [absent]
          rfl
      | [_, _] =>
          rw [cursor.tokenAt_eq, cursor'.tokenAt_eq, here, here']
          rcases parting.first_open with ends | ⟨_, place⟩
          · simp [ends]
          · have no_colon : cursor.hasMarkAt 3 .colon = false := by
              rw [Bool.eq_false_iff, Ne, Cursor.hasMarkAt_eq_true_iff, here, ← List.head?_drop]
              exact place.not_owner _ (by decide)
            have no_question : cursor.hasMarkAt 3 .question = false := by
              rw [Bool.eq_false_iff, Ne, Cursor.hasMarkAt_eq_true_iff, here, ← List.head?_drop]
              exact place.not_owner _ (by decide)
            simp [no_colon, no_question]
      | [_, _, third] =>
          have absent (mark : Punctuation) : cursor.hasMarkAt 3 mark = false := by
            rw [Bool.eq_false_iff, Ne, Cursor.hasMarkAt_eq_true_iff, here]
            exact fun found => parting.first_ne_punctuation _ (Option.some.inj found)
          rw [hasMarkAt_eq_of_le here here' (by decide) (Nat.le_refl 3),
            hasMarkAt_eq_of_le here here' (by decide) (Nat.le_refl 3), absent, absent]
          simp
      | first :: second :: third :: fourth :: ahead =>
          have far : 4 ≤ (first :: second :: third :: fourth :: ahead).length := by simp
          rw [hasMarkAt_eq_of_le here here' (by decide) (Nat.le_of_succ_le far),
            hasMarkAt_eq_of_le here here' (by decide) (Nat.le_of_succ_le far),
            hasMarkAt_eq_of_le here here' (by decide) far, cursor.tokenAt_eq, cursor'.tokenAt_eq,
            here, here']
          rfl

theorem follows_typeArguments (reads : parting.Reads types types' site site') (isList : Bool) :
    Follows (parting.At past) (typeArguments types site isList) (typeArguments types' site' isList)
      parting.Same := by
  refine Follows.current_bind fun _ _ => ?_
  refine reads.here.from_past.bind_same fun first => ?_
  refine (follows_eatMark (by decide)).bind_same fun eaten => ?_
  cases eaten with
  | false => exact (Follows.expectMark _).bind fun _ _ => follows_pure
  | true =>
      refine reads.here.from_past.bind_same fun value => (Follows.expectMark _).bind fun _ _ => ?_
      cases keyedType isList first value with
      | ok node => exact follows_pure
      | error cause => exact Follows.failAt

/-- The key before a tuple element. -/
theorem follows_tupleKey (position bound : Nat) :
    Follows (fun cursor cursor' => cursor.rest.length ≤ bound ∧ parting.At past cursor cursor')
      (tupleKey position) (tupleKey position)
      fun _ _ after after' => after.rest.length ≤ bound ∧ parting.At [] after after' := by
  refine Follows.get_bind fun cursor cursor' start => ?_
  obtain ⟨few, here⟩ := start
  have stays : Follows (fun here here' => here = cursor ∧ here' = cursor') (Pure.pure ())
      (Pure.pure ()) fun _ _ after after' =>
        after.rest.length ≤ bound ∧ parting.At [] after after' := by
    refine Follows.pure ?_
    rintro _ _ ⟨rfl, rfl⟩
    exact ⟨few, here.forget⟩
  by_cases same : cursor.current.token = cursor'.current.token
  · have start : parting.AtToken past cursor cursor' := ⟨here, same⟩
    rw [← same, start.hasMarkAt_one_eq _ (by decide)]
    split
    next key seen =>
      split
      next marked =>
        split
        · refine (Follows.takes start seen (Nat.le_succ_of_le few)).ran.bind fun _ _ => ?_
          rintro after after' ⟨run, _, few, there⟩
          have colon : after.current.token = .punctuation .colon := by
            refine Token.isMark_eq_true_iff.mp ?_
            rw [← marked, Cursor.hasMarkAt, ← tokenAt_zero_of_advance run]
            rfl
          have start : parting.AtToken (past ++ [Token.integer key]) after after' := by
            refine ⟨there, there.token_eq_of_ne ?_⟩
            rw [colon]
            exact (parting.first_ne_punctuation _).symm
          refine ((Follows.takes start colon (Nat.le_succ_of_le few)).bind fun _ _ =>
            Follows.pure ?_) ⟨rfl, rfl⟩
          exact fun _ _ there => ⟨there.2.1, there.2.2.forget⟩
        · exact Follows.fail
      · exact stays
    · exact stays
  · obtain ⟨_, _, tokens, tokens'⟩ := here.parts same
    rw [cursor.token_current_eq, cursor'.token_current_eq, tokens, tokens']
    rcases parting.first_open with ends | ⟨⟨word, ends⟩, _⟩
    · rw [ends]
      exact stays
    · rw [ends]
      exact stays

theorem follows_tupleElements (reads : parting.Reads types types' site site')
    {turns turns' : Nat} (enough : turns ≤ turns') (position : Nat) :
    Follows (fun cursor cursor' => cursor.rest.length ≤ turns ∧ parting.At past cursor cursor')
      (tupleElements types site turns position) (tupleElements types' site' turns' position)
      parting.Same := by
  induction turns generalizing turns' position past with
  | zero => exact Follows.of_none
  | succ turns ih =>
      obtain ⟨turns', rfl⟩ : ∃ more, turns' = more + 1 := ⟨turns' - 1, by omega⟩
      refine Follows.look_bind fun cursor cursor' start => ?_
      rw [start.2.hasMarkAt_zero_eq (by decide)]
      split
      · exact Follows.pure fun _ _ there => ⟨rfl, there.2.forget⟩
      · refine (follows_tupleKey position _).bind fun _ _ => ?_
        refine (reads.here.from_past.within _).bind_same fun element => ?_
        refine (Follows.eatMark (by decide) _).bind_same fun eaten => ?_
        cases eaten with
        | false => exact Follows.pure fun _ _ there => ⟨rfl, there.2⟩
        | true =>
            refine (ih (Nat.le_of_succ_le_succ enough) (position + 1)).bind_same fun others => ?_
            exact Follows.pure fun _ _ there => ⟨rfl, there⟩

theorem follows_tuple (reads : parting.Reads types types' site site') :
    Follows (parting.At past) (tuple types site) (tuple types' site') parting.Same := by
  refine (Follows.expectMark _).bind fun _ _ => Follows.turns_bind fun turns turns' enough => ?_
  refine (follows_tupleElements reads enough 0).bind_same fun elements => ?_
  exact (Follows.expectMark _).bind fun _ _ => follows_located

theorem readsAlike_arrayLike : arrayLike.ReadsAlike where
  applies _ _ start := by simp only [arrayLike, start.word?_eq, atStruct_eq start]
  read reads _ _ _ start := by
    refine Follows.at_places start (Follows.takeWord.bind_same fun word => ?_)
    refine Follows.look_bind fun cursor cursor' start => ?_
    rw [start.hasMarkAt_zero_eq (by decide)]
    refine (follows_eatMark (by decide)).bind_same fun eaten => ?_
    cases eaten with
    | true => exact (follows_typeArguments reads _).bind_same fun _ => follows_pure_or
    | false =>
        dsimp only
        split
        · contradiction
        · split
          · exact (follows_tuple reads).bind_same fun _ => follows_pure_or
          · exact follows_pure.bind_same fun _ => follows_pure_or

/-- The mark behind an optional one. -/
theorem expectMark_of_if {bound : Nat} {optional : Bool} {eaten : Token} (mark : Punctuation) :
    Follows (fun cursor cursor' => cursor.rest.length ≤ bound ∧
        if optional then parting.At (past ++ [eaten]) cursor cursor'
        else parting.At past cursor cursor')
      (Parse.expectMark mark) (Parse.expectMark mark) fun _ _ after after' =>
        after.rest.length ≤ bound ∧ parting.At [] after after' := by
  have expected (past : List Token) : Follows
      (fun cursor cursor' => cursor.rest.length ≤ bound ∧ parting.At past cursor cursor')
      (Parse.expectMark mark) (Parse.expectMark mark) fun _ _ after after' =>
        after.rest.length ≤ bound ∧ parting.At [] after after' :=
    ((Follows.expectMark mark).bounded bound).mono (fun _ _ => id)
      fun _ _ _ _ there => ⟨there.1, there.2.forget⟩
  cases optional with
  | true => exact expected _
  | false => exact expected _

/-- A word is no name of a property unless a colon or a question mark stands behind it. -/
theorem key_ne_ok {α : Type} {cursor after : Cursor} {word : String} {later : List Token}
    {next : Bool → Parse α} {value : α} (tokens : cursor.tokens = .word word :: later)
    (no_question : later.head? ≠ some (.punctuation .question))
    (no_colon : later.head? ≠ some (.punctuation .colon)) :
    (do
      let _ ← Parse.advance
      let optional ← Parse.eatMark .question
      let _ ← Parse.expectMark .colon
      next optional) cursor ≠ .ok value after := by
  intro run
  obtain ⟨_, behind, taken, run⟩ := EStateM.bind_eq_ok_iff.mp run
  obtain ⟨_, _, taken', _, left⟩ := Leads.advance (by rfl) tokens
  rw [taken] at taken'
  cases taken'
  obtain ⟨_, _, eaten, run⟩ := EStateM.bind_eq_ok_iff.mp run
  obtain ⟨_, _, eaten', _, left⟩ := Leads.eatMark_of_ne no_question left
  rw [eaten] at eaten'
  cases eaten'
  obtain ⟨_, _, expected, _⟩ := EStateM.bind_eq_ok_iff.mp run
  rw [← left] at no_colon
  exact expectMark_ne_ok no_colon expected

/-- The properties of a struct.  Where the inputs part, the first one has no name of a property. -/
theorem follows_structProperties (reads : parting.Reads types types' site site')
    {turns turns' : Nat} (enough : turns ≤ turns') (earlier : List (Property Node)) :
    Follows (fun cursor cursor' => cursor.rest.length ≤ turns ∧ parting.At past cursor cursor')
      (structProperties types site turns earlier) (structProperties types' site' turns' earlier)
      parting.Same := by
  induction turns generalizing turns' earlier past with
  | zero => exact Follows.of_none
  | succ turns ih =>
      obtain ⟨turns', rfl⟩ : ∃ more, turns' = more + 1 := ⟨turns' - 1, by omega⟩
      refine Follows.look_bind fun cursor cursor' start => ?_
      rw [start.2.hasMarkAt_zero_eq (by decide)]
      split
      · exact Follows.pure fun _ _ there => ⟨rfl, there.2.forget⟩
      · refine Follows.token_bind fun cursor cursor' start => ?_
        by_cases same : cursor.current.token = cursor'.current.token
        · rw [← same]
          cases propertyName? cursor.current.token with
          | none => exact Follows.fail
          | some name =>
              refine (Follows.takes ⟨start.2, same⟩ rfl start.1).bind fun _ _ => ?_
              refine Follows.of_start (fun here here' there => show here.rest.length ≤ turns + 1 ∧
                parting.At _ here here' from ⟨Nat.le_succ_of_le there.2.1, there.2.2⟩) ?_
              refine ((follows_eatMark (by decide)).within _).bind_same fun optional => ?_
              refine (expectMark_of_if _).bind fun _ _ => ?_
              refine (reads.here.from_past.within _).bind_same fun node => ?_
              split
              · exact Follows.failAt
              · refine (Follows.eatMark (by decide) _).bind_same fun eaten => ?_
                cases eaten with
                | false => exact Follows.pure fun _ _ there => ⟨rfl, there.2⟩
                | true =>
                    refine (ih (Nat.le_of_succ_le_succ enough) _).bind_same fun others => ?_
                    exact Follows.pure fun _ _ there => ⟨rfl, there⟩
        · obtain ⟨_, _, tokens, _⟩ := start.2.parts same
          rw [cursor.token_current_eq, tokens]
          rcases parting.first_open with ends | ⟨⟨word, ends⟩, place⟩
          · rw [ends]
            exact Follows.fail
          · rw [ends] at tokens ⊢
            rintro _ _ ⟨rfl, rfl⟩ value after run
            exact absurd run (key_ne_ok tokens (place.not_owner _ (by decide))
              (place.not_owner _ (by decide)))

theorem readsAlike_struct : struct.ReadsAlike where
  applies _ _ start := atStruct_eq start
  read reads _ _ _ start := by
    refine Follows.at_places start (Follows.current_bind fun _ _ => ?_)
    refine Follows.takeWord.bind_same fun word => (Follows.expectMark _).bind fun _ _ => ?_
    refine Follows.turns_bind fun turns turns' enough => ?_
    refine (follows_structProperties reads enough []).bind_same fun properties => ?_
    exact (Follows.expectMark _).bind fun _ _ => follows_located

/-! ## Selections and host classes -/

theorem readsAlike_selection : selection.ReadsAlike where
  applies _ _ start := by
    simp only [selection, start.isWord_eq, start.hasMarkAt_one_eq .less (by decide)]
  read reads _ _ _ start := by
    refine Follows.at_places start (Follows.current_bind fun _ _ => ?_)
    refine Follows.takeWord.bind_same fun utility => (Follows.expectMark _).bind fun _ _ => ?_
    refine Follows.current_bind fun _ _ => ?_
    refine reads.here.from_past.bind_same fun target => (Follows.expectMark _).bind fun _ _ => ?_
    refine Follows.current_bind fun _ _ => ?_
    refine reads.here.from_past.bind_same fun keys => (Follows.expectMark _).bind fun _ _ => ?_
    split
    · exact Follows.failAt
    · split
      · exact Follows.failAt
      · split
        · exact Follows.failAt
        · exact follows_located

/-- Two ways to read the types of a host class give the same properties. -/
structure ClassExpansion.Reads (expansion expansion' : ClassExpansion) : Prop where
  className : expansion'.className = expansion.className
  fieldType : ∀ decl node,
    expansion.fieldType decl = .ok node → expansion'.fieldType decl = .ok node

namespace ClassExpansion

variable {expansion expansion' : ClassExpansion}

theorem reads_of_reads (reads : parting.Reads types types' site site') {lexeme lexeme' : Lexeme}
    {className : String} :
    ClassExpansion.Reads { types, site, lexeme, className }
      { types := types', site := site', lexeme := lexeme', className } where
  className := rfl
  fieldType decl node success := by
    unfold fieldType at success ⊢
    dsimp only at success ⊢
    split at success
    · cases success
    next found run =>
      rw [reads.declared _ _ _ _ run]
      exact success

variable (reads : expansion.Reads expansion')
include reads

theorem parameterProperties_of_reads {decls : List FieldDecl} {properties : List (Property Node)}
    (success : expansion.parameterProperties decls = .ok properties) :
    expansion'.parameterProperties decls = .ok properties := by
  induction decls generalizing properties with
  | nil => exact success
  | cons decl rest ih =>
      unfold parameterProperties at success ⊢
      cases run : expansion.fieldType decl with
      | error error =>
          rw [run] at success
          cases success
      | ok node =>
          rw [run] at success
          rw [reads.fieldType decl node run]
          cases others : expansion.parameterProperties rest with
          | error error =>
              rw [others] at success
              cases success
          | ok others =>
              rw [others] at success
              rw [ih others]
              exact success

theorem addFields_of_reads {fail fail' : SyntaxError.Cause → SyntaxError} {direction : Direction}
    {decls : List FieldDecl} {earlier properties : List (Property Node)}
    (success : expansion.addFields fail direction earlier decls = .ok properties) :
    expansion'.addFields fail' direction earlier decls = .ok properties := by
  induction decls generalizing earlier with
  | nil => exact success
  | cons decl rest ih =>
      unfold addFields at success ⊢
      dsimp only at success ⊢
      split at success
      next promoted =>
        rw [if_pos promoted]
        exact ih success
      next unpromoted =>
        rw [if_neg unpromoted]
        split at success
        · cases success
        next apart =>
          rw [if_neg apart]
          split at success
          · cases success
          next declared =>
            rw [if_neg declared]
            split at success
            · cases success
            next typed =>
              rw [if_neg typed]
              split at success
              · cases success
              next node run =>
                rw [reads.fieldType _ _ run]
                exact ih success

theorem follows_objectType (parameters : Option (List FieldDecl)) (fields : List FieldDecl) :
    Follows (parting.At past) (expansion.objectType parameters fields)
      (expansion'.objectType parameters fields) parting.Same := by
  refine Follows.look_bind fun cursor cursor' _ => ?_
  refine (follows_lift fun _ => parameterProperties_of_reads reads).bind_same fun inputs => ?_
  refine (follows_lift fun _ => addFields_of_reads reads).bind_same fun properties => ?_
  rw [reads.className]
  split
  · exact follows_located
  · exact Follows.of_fails fun _ _ _ absurd => nomatch absurd

theorem follows_collectionType (item : String) :
    Follows (parting.At past) (expansion.collectionType item) (expansion'.collectionType item)
      parting.Same := by
  refine (follows_lift (reads.fieldType _)).bind_same fun node => ?_
  rw [reads.className]
  exact follows_located

end ClassExpansion

theorem readsAlike_classType : classType.ReadsAlike where
  applies registry context start := by
    simp only [classType, start.word?_eq, registry, context]
  read reads _ _ _ start := by
    refine Follows.at_places start (Follows.current_bind fun _ _ => ?_)
    refine Follows.takeWord.bind_same fun word => ?_
    rw [reads.context, reads.registry]
    dsimp only
    split
    · exact Follows.failAt
    next className hostClass _ =>
      split
      · exact Follows.failAt
      next apart =>
        rw [if_neg (reads.not_expanding apart)]
        split
        · exact ClassExpansion.follows_objectType (ClassExpansion.reads_of_reads reads) _ _
        · exact ClassExpansion.follows_collectionType (ClassExpansion.reads_of_reads reads) _

theorem readsAlike_builtIn : ∀ rule ∈ builtIn, rule.ReadsAlike := by
  simp only [builtIn, List.forall_mem_cons]
  exact ⟨readsAlike_arrayLike, readsAlike_struct, readsAlike_keyword, readsAlike_int,
    readsAlike_literal, readsAlike_classConstant, readsAlike_enumeration, readsAlike_dateTime,
    readsAlike_aliasName, readsAlike_selection, readsAlike_classType, nofun⟩

end Rule

end Schemata
