import Mathlib.Data.List.Find
import Schemata.Proofs.Parser.PartingRules
import Schemata.Proofs.Token.Replacement

/-!
# Types on inputs that part

A parser follows another one with the same rules of the language, type by type and level by level,
if it does so at the place where the inputs part.  For whole texts there is no such place.
-/

namespace Schemata

open Parse

/-- A text is read if a type is read from all of its tokens. -/
theorem TypeReader.readText_eq_ok_iff {types : TypeReader} {site : Site} {text : String}
    {node : Node} :
    types.readText site text = .ok node ↔ ∃ cursor after, Cursor.ofInput text = .ok cursor ∧
      types site cursor = .ok node after ∧ after.atEnd = true := by
  have complete (cursor after : Cursor) : types.complete site cursor = .ok node after ↔
      types site cursor = .ok node after ∧ after.atEnd = true := by
    refine Iff.trans EStateM.bind_eq_ok_iff ⟨?_, ?_⟩
    · rintro ⟨found, here, run, last⟩
      obtain ⟨_, _, ⟨⟩, last⟩ := EStateM.bind_eq_ok_iff.mp last
      split at last
      next atEnd =>
        cases last
        exact ⟨run, atEnd⟩
      · exact absurd last fail_ne_ok
    · rintro ⟨run, last⟩
      refine ⟨node, after, run, EStateM.bind_eq_ok_iff.mpr ⟨after, after, rfl, ?_⟩⟩
      rw [if_pos last]
      rfl
  unfold readText
  cases Cursor.ofInput text with
  | error error => simp
  | ok cursor =>
      dsimp only [EStateM.run]
      cases run : types.complete site cursor with
      | error error after =>
          simp only [reduceCtorEq, false_iff]
          rintro ⟨_, after', ⟨⟩, found⟩
          rw [(complete cursor after').mpr found] at run
          cases run
      | ok found after =>
          simp only [Except.ok.injEq]
          constructor
          · rintro rfl
            exact ⟨cursor, after, rfl, (complete cursor after).mp run⟩
          · rintro ⟨_, after', rfl, other⟩
            rw [(complete cursor after').mpr other] at run
            cases run
            rfl

/-- A cursor at the start of an input stands before the tokens the input spells. -/
theorem Cursor.exists_spells_of_ofInput {text : String} {cursor : Cursor}
    (input : Cursor.ofInput text = .ok cursor) :
    ∃ tokens, cursor.tokens = tokens ++ [Token.endOfInput] ∧ Token.Spells text.toList tokens := by
  cases lexed : Token.tokenize text with
  | error error =>
      rw [Cursor.ofInput, lexed] at input
      cases input
  | ok lexemes =>
      rw [Cursor.ofInput, lexed] at input
      cases input
      exact Token.spells_of_tokenize lexed

theorem Cursor.ends_of_ofInput {text : String} {cursor : Cursor}
    (input : Cursor.ofInput text = .ok cursor) : .endOfInput ∈ cursor.tokens := by
  obtain ⟨tokens, same, _⟩ := Cursor.exists_spells_of_ofInput input
  rw [same]
  exact List.mem_append_right _ List.mem_cons_self

theorem Cursor.exists_of_spells {text : String} {tokens : List Token}
    (spells : Token.Spells text.toList tokens) :
    ∃ cursor, Cursor.ofInput text = .ok cursor ∧ cursor.tokens = tokens ++ [Token.endOfInput] := by
  obtain ⟨lexemes, lexed, same⟩ := Token.tokenize_of_spells spells
  refine ⟨{ input := text, rest := lexemes }, ?_, same⟩
  rw [Cursor.ofInput, lexed]
  rfl

/-- What is read of all tokens that a text spells is the type of the text. -/
theorem TypeReader.readText_eq_ok_of_leads {types : TypeReader} {site : Site} {text : String}
    {tokens : List Token} {node : Node} (spells : Token.Spells text.toList tokens)
    (leads : Leads (types site) (tokens ++ [Token.endOfInput]) (· = node) [.endOfInput]) :
    types.readText site text = .ok node := by
  obtain ⟨cursor, input, start⟩ := Cursor.exists_of_spells spells
  obtain ⟨_, after, run, rfl, left⟩ := leads start
  refine TypeReader.readText_eq_ok_iff.mpr ⟨cursor, after, input, run, ?_⟩
  rw [Cursor.atEnd, after.token_current_eq, left]
  rfl

namespace Parting

variable {parting : Parting} {types types' : TypeReader} {site site' : Site}

/-- Steps that give the same value where the inputs part. -/
def Bridges (parting : Parting) (step step' : Parse Node) : Prop :=
  Follows parting.AtGap step step' parting.Same

/-- Where the next token is the same, the first rule that applies does. -/
theorem follows_primaryBody (reads : parting.Reads types types' site site') (added : List Rule) :
    Follows (parting.AtToken []) (Parser.primaryBody Rule.builtIn types site)
      (Parser.primaryBody (Rule.builtIn ++ added) types' site') parting.Same := by
  have opens (bound : Nat) := Follows.eatMark_of_eq
    (fun cursor cursor' (start : parting.AtToken [] cursor cursor') => start.1)
    (fun _ _ start => congrArg (Token.isMark · .openParen) start.2) bound
  refine Follows.of_bounded fun bound => (opens bound).bind_same fun eaten => ?_
  cases eaten with
  | true =>
      refine Follows.of_start (fun here here' there => show parting.At _ here here' from there.2) ?_
      refine reads.here.from_past.bind_same fun node => ?_
      exact (Follows.expectMark _).bind fun _ _ => follows_pure
  | false =>
      refine Follows.get_bind fun cursor cursor' start => ?_
      have applies : ∀ rule ∈ Rule.builtIn,
          rule.applies site cursor = rule.applies site' cursor' := fun rule among =>
        ((Rule.readsAlike_builtIn rule among).applies reads.registry reads.context start.2).symm
      rw [List.find?_append, ← List.find?_congr applies]
      cases found : Rule.builtIn.find? (·.applies site cursor) with
      | some rule =>
          have among := List.mem_of_find?_eq_some found
          have here : rule.applies site cursor = true := by
            simpa using List.find?_some found
          exact (Rule.readsAlike_builtIn rule among).read reads here start.2
      | none =>
          dsimp only
          split
          · exact Follows.fail
          · exact Follows.fail
          · exact Follows.fail

theorem keeps_primaryBody (reads : parting.Reads types types' site site') {added : List Rule}
    (bridges : parting.Bridges (Parser.primaryBody Rule.builtIn types site)
      (Parser.primaryBody (Rule.builtIn ++ added) types' site')) :
    parting.Keeps (Parser.primaryBody Rule.builtIn types site)
      (Parser.primaryBody (Rule.builtIn ++ added) types' site') := by
  intro cursor cursor' here
  by_cases same : cursor.current.token = cursor'.current.token
  · exact follows_primaryBody reads added ⟨here, same⟩
  · exact bridges (here.parts same).2

variable {primary primary' : Parse Node}

theorem follows_listBrackets {turns turns' : Nat} (enough : turns ≤ turns') (node : Node) :
    Follows (fun cursor cursor' => cursor.rest.length ≤ turns ∧ parting.At past cursor cursor')
      (Parser.listBrackets turns node) (Parser.listBrackets turns' node) parting.Same := by
  induction turns generalizing turns' past node with
  | zero => exact Follows.of_none
  | succ turns ih =>
      obtain ⟨turns', rfl⟩ : ∃ more, turns' = more + 1 := ⟨turns' - 1, by omega⟩
      refine (Follows.eatMark (by decide) _).bind_same fun eaten => ?_
      cases eaten with
      | false => exact Follows.pure fun _ _ there => ⟨rfl, there.2.forget⟩
      | true => exact ih (Nat.le_of_succ_le_succ enough) (.list node)

theorem Keeps.postfixType (keeps : parting.Keeps primary primary') :
    parting.Keeps (Parser.postfixType primary) (Parser.postfixType primary') := by
  refine keeps.bind_same fun node => Follows.turns_bind fun turns turns' enough => ?_
  exact follows_listBrackets enough node

theorem Keeps.intersectionType (keeps : parting.Keeps primary primary') :
    parting.Keeps (Parser.intersectionType primary) (Parser.intersectionType primary') := by
  refine Follows.current_bind fun _ _ => keeps.postfixType.bind_same fun first => ?_
  refine Follows.turns_bind fun turns turns' enough => ?_
  refine (Follows.following (by decide) keeps.postfixType enough).bind_same fun others => ?_
  split
  · exact follows_pure
  · exact follows_located

theorem Keeps.unionType (keeps : parting.Keeps primary primary') :
    parting.Keeps (Parser.unionType primary) (Parser.unionType primary') := by
  refine Follows.current_bind fun _ _ => (follows_eatMark (by decide)).bind_same fun nullable => ?_
  refine Follows.of_start (fun here here' there => show parting.At [] here here' from ?_) ?_
  · cases nullable with
    | true => exact there.forget
    | false => exact there
  · refine keeps.intersectionType.bind_same fun first => ?_
    refine Follows.turns_bind fun turns turns' enough => ?_
    refine (Follows.following (by decide) keeps.intersectionType enough).bind_same fun others => ?_
    dsimp only
    split
    · exact follows_pure
    · exact follows_located

/-- Inputs with the same tokens. -/
def whole : Parting where
  parts := False
  common := []
  first := .endOfInput
  later := []
  paren := .closeParen
  later' := []
  rejoins := True
  first_open := .inl rfl
  is_paren := Punctuation.isParen_closeParen
  shorter := Nat.le_refl _

theorem bridges_whole {step step' : Parse Node} : whole.Bridges step step' :=
  fun _ _ gap => gap.1.elim

/-- What is read from a whole text. -/
theorem readText_of_keeps (keeps : whole.Keeps (types site) (types' site')) {text : String}
    {node : Node} (success : types.readText site text = .ok node) :
    types'.readText site' text = .ok node := by
  rw [TypeReader.readText_eq_ok_iff] at success ⊢
  obtain ⟨cursor, after, input, run, last⟩ := success
  have start : whole.At [] cursor cursor := .behind trivial (Cursor.ends_of_ofInput input) rfl
  obtain ⟨_, node, after', run', rfl, there⟩ := keeps start run
  refine ⟨cursor, after', input, run', ?_⟩
  cases there with
  | before parts => exact parts.elim
  | behind _ _ same =>
      rw [Cursor.atEnd, after.token_current_eq, same] at last
      rwa [Cursor.atEnd, after'.token_current_eq]

end Parting

namespace Parser

variable {parser parser' : Parser} {added : List Rule} {parting : Parting} {site site' : Site}

/-- Without additional rules, there are those of the language. -/
theorem rules_eq_builtIn (registry : TypeRegistry) (maxDepth : Nat) :
    Parser.rules { registry, maxDepth } = Rule.builtIn :=
  List.append_nil _

/-- A parser with the rules of the language is followed, level by level, by one with further rules
and within fewer declarations, if it is where the inputs part. -/
theorem keeps_typeWithin (rules : parser.rules = Rule.builtIn)
    (rules' : parser'.rules = Rule.builtIn ++ added) (registry : site'.registry = site.registry)
    (context : site'.context = site.context) (expanding : site'.expanding ⊆ site.expanding)
    (bridges : ∀ levels, parting.Bridges (primaryBody parser.rules (parser.typeWithin levels) site)
      (primaryBody parser'.rules (parser'.typeWithin levels) site')) (levels : Nat) :
    parting.Keeps (parser.typeWithin levels site) (parser'.typeWithin levels site') := by
  induction levels generalizing parting site site' with
  | zero => exact Parting.Keeps.unionType Follows.fail
  | succ levels ih =>
      refine Parting.Keeps.unionType ?_
      have here := bridges levels
      rw [rules, rules'] at here ⊢
      refine Parting.keeps_primaryBody ⟨registry, context, expanding, ?_, ?_⟩ here
      · exact ih registry context expanding bridges
      · intro expansion inner text node success
        refine Parting.readText_of_keeps (ih ?_ ?_ ?_ ?_) success
        · exact registry
        · rfl
        · exact List.cons_subset_cons _ expanding
        · exact fun _ => Parting.bridges_whole

end Parser

end Schemata
