import Mathlib.Data.List.TakeWhile
import Schemata.Proofs.Parser.PartingTypes
import Schemata.Proofs.Token.Replacement

/-!
# Aliases in parentheses

Where a global alias stands in the place of a type, its text in parentheses can stand as well: the
inputs part at the name, and they are the same again behind the closing parenthesis.
-/

namespace Schemata

open Parse

/-- The word stands between two stretches of a text, in the place of a type. -/
def Token.StandsAsType (word before behind : String) : Prop :=
  ∃ earlier later, Token.tokenize (before ++ word ++ behind) =
      .ok (earlier ++ ⟨.word word, ⟨before.length, before.length + word.length⟩⟩ :: later) ∧
    Token.IsTypePlace (earlier.map Lexeme.token) (later.map Lexeme.token)

/-- The name of a global alias that no rule before the one for aliases claims. -/
structure TypeRegistry.IsAliasOnly (registry : TypeRegistry) (name body : String) : Prop where
  registered : registry.alias? name = some body
  undotted : '.' ∉ name.toList
  not_list : name ∉ Rule.listKeywords
  not_keyword : Rule.keywordType? name = none
  not_int : name ≠ "int"
  not_enum : registry.enum? name = none
  not_date : registry.dateTime? name = none

namespace Cursor

theorem tokens_of_ofInput {text : String} {lexemes : List Lexeme} {cursor : Cursor}
    (lexed : Token.tokenize text = .ok lexemes) (input : Cursor.ofInput text = .ok cursor) :
    cursor.tokens = lexemes.map Lexeme.token := by
  rw [ofInput, lexed] at input
  cases input
  rfl

theorem exists_of_tokenize {text : String} {lexemes : List Lexeme}
    (lexed : Token.tokenize text = .ok lexemes) :
    ∃ cursor, Cursor.ofInput text = .ok cursor ∧ cursor.tokens = lexemes.map Lexeme.token := by
  refine ⟨{ input := text, rest := lexemes }, ?_, rfl⟩
  rw [ofInput, lexed]
  rfl

theorem exists_of_tokens (tokens : List Token) : ∃ cursor : Cursor, cursor.tokens = tokens :=
  ⟨{ input := "", rest := tokens.map fun token => ⟨token, ⟨0, 0⟩⟩ }, by
    rw [Cursor.tokens, List.map_map]
    exact List.map_id _⟩

theorem token_eq_of_atEnd {cursor : Cursor} (last : cursor.atEnd = true) :
    cursor.current.token = .endOfInput := by
  unfold atEnd at last
  cases seen : cursor.current.token with
  | endOfInput => rfl
  | _ => simp [seen, Token.isSame] at last

end Cursor

namespace ParsingContext

/-- Without a namespace and imports, a name without dots stands for itself. -/
theorem candidates_of_undotted {name : String} (undotted : '.' ∉ name.toList) :
    ParsingContext.candidates {} name = [name] := by
  unfold candidates
  split
  next absolute dotted =>
    rw [dotted] at undotted
    exact absurd List.mem_cons_self undotted
  · rfl

/-- An alias without a namespace is declared where nothing is known. -/
theorem declaring_of_undotted {name : String} (undotted : '.' ∉ name.toList) :
    ParsingContext.declaring name = {} := by
  have none : name.toList.reverse.dropWhile (· != '.') = [] := by
    rw [List.dropWhile_eq_nil_iff]
    intro char among
    rw [bne_iff_ne]
    rintro rfl
    exact undotted (List.mem_reverse.mp among)
  unfold declaring scopeOf?
  rw [none]

end ParsingContext

namespace Parting

/-- The inputs of a text alone and of the same text before a closing parenthesis. -/
def closing (inner later : List Token) : Parting where
  parts := True
  common := inner
  first := .endOfInput
  later := []
  paren := .closeParen
  later' := later
  rejoins := False
  first_open := .inl rfl
  is_paren := Punctuation.isParen_closeParen
  shorter := Nat.zero_le _

/-- The inputs of a word in the place of a type and of something in parentheses in its place. -/
def opening {earlier later : List Token} (word : String)
    (place : Token.IsTypePlace earlier later) (rejoins : Prop) (inner : List Token) : Parting where
  parts := True
  common := earlier
  first := .word word
  later := later
  paren := .openParen
  later' := inner ++ .punctuation .closeParen :: later
  rejoins := rejoins
  first_open := .inr ⟨⟨word, rfl⟩, place⟩
  is_paren := Punctuation.isParen_openParen
  shorter := by
    rw [List.length_append, List.length_cons]
    omega

variable {parting : Parting} {after after' : Cursor}

/-- Where the first input ends, the second one has ended as well or the inputs have just parted. -/
theorem At.of_atEnd (there : parting.At [] after after') (no_end : .endOfInput ∉ parting.common)
    (last : after.atEnd = true) :
    (parting.first = .endOfInput ∧ after'.tokens = .punctuation parting.paren :: parting.later') ∨
      (parting.rejoins ∧ after'.atEnd = true) := by
  have seen := Cursor.token_eq_of_atEnd last
  rw [after.token_current_eq] at seen
  cases there with
  | before _ ahead inside here here' =>
      rw [here] at seen
      cases ahead with
      | nil => exact .inl ⟨seen, here'⟩
      | cons token ahead =>
          obtain rfl : token = .endOfInput := seen
          exact absurd (inside.subset List.mem_cons_self) no_end
  | behind rejoins _ same =>
      refine .inr ⟨rejoins, ?_⟩
      rw [Cursor.atEnd, after'.token_current_eq, ← same, seen]
      rfl

end Parting

namespace Parser

variable {registry : TypeRegistry} {name body : String} {types : TypeReader} {site : Site}

/-- No type begins at the end of an input. -/
theorem bridges_of_ends {parting : Parting} (ends : parting.first = .endOfInput)
    {step' : Parse Node} : parting.Bridges (primaryBody Rule.builtIn types site) step' := by
  rintro cursor cursor' ⟨_, tokens, _⟩ node after run
  exfalso
  rw [ends] at tokens
  obtain ⟨eaten, here, run₁, run⟩ := EStateM.bind_eq_ok_iff.mp run
  obtain ⟨_, _, run₁', rfl, tokens⟩ :=
    Leads.eatMark_of_ne (by simp : _ ≠ some (Token.punctuation .openParen)) tokens
  rw [run₁] at run₁'
  cases run₁'
  have seen : here.current.token = .endOfInput := by
    rw [here.token_current_eq, tokens]
    rfl
  have word : here.word? = none := by rw [Cursor.word?, seen]
  have none_applies : Rule.builtIn.find? (·.applies site here) = none := by
    simp [Rule.builtIn, Rule.arrayLike, Rule.struct, Rule.atStruct, Rule.keyword, Rule.int,
      Rule.literal, Rule.literalOf?, Rule.classConstant, Rule.enumeration, Rule.dateTime,
      Rule.hasCandidate, Rule.aliasName, Rule.selection, Rule.classType, Cursor.isWord, word, seen]
  obtain ⟨_, _, ⟨⟩, run⟩ := EStateM.bind_eq_ok_iff.mp run
  rw [none_applies] at run
  dsimp only at run
  rw [seen] at run
  exact fail_ne_ok run

theorem alias?_eq_of_only (only : site.registry.IsAliasOnly name body) (bare : site.context = {}) :
    Rule.alias? site name = some { name, body, context := {} } := by
  unfold Rule.alias?
  rw [bare, ParsingContext.candidates_of_undotted only.undotted]
  simp only [List.findSome?_cons, only.registered,
    ParsingContext.declaring_of_undotted only.undotted]
  rfl

/-- The rule for aliases is the first one that applies to the name. -/
theorem find?_eq_aliasName (only : site.registry.IsAliasOnly name body) (bare : site.context = {})
    {later : List Token}
    (unowned : ∀ mark ∈ [Punctuation.colon, .doubleColon, .question, .openBrace],
      later.head? ≠ some (.punctuation mark))
    {cursor : Cursor} (tokens : cursor.tokens = .word name :: later) :
    Rule.builtIn.find? (·.applies site cursor) = some Rule.aliasName := by
  have seen : cursor.current.token = .word name := by
    rw [cursor.token_current_eq, tokens]
    rfl
  have word : cursor.word? = some name := by rw [Cursor.word?, seen]
  have candidate (isKnown : String → Bool) :
      Rule.hasCandidate site cursor isKnown = isKnown name := by
    simp [Rule.hasCandidate, word, bare, ParsingContext.candidates_of_undotted only.undotted]
  have behind {mark : Punctuation}
      (among : mark ∈ [Punctuation.colon, .doubleColon, .question, .openBrace]) :
      cursor.hasMarkAt 1 mark = false := by
    rw [Bool.eq_false_iff, Ne, Cursor.hasMarkAt_eq_true_iff, tokens, List.getElem?_cons_succ,
      ← List.head?_eq_getElem?]
    exact unowned mark among
  have no_struct : Rule.atStruct cursor = false := by
    have no_brace : cursor.hasMarkAt 1 .openBrace = false := behind (by decide)
    have no_array : cursor.isWord "array" = false := by
      rw [Cursor.isWord, word, beq_eq_false_iff_ne, Ne, Option.some.injEq]
      rintro rfl
      exact only.not_list (by decide)
    simp [Rule.atStruct, no_brace, no_array]
  have no_int : cursor.isWord "int" = false := by
    rw [Cursor.isWord, word, beq_eq_false_iff_ne, Ne, Option.some.injEq]
    exact only.not_int
  have applies : Rule.aliasName.applies site cursor = true := by
    simp [Rule.aliasName, word, bare, alias?_eq_of_only only bare]
  unfold Rule.builtIn
  rw [List.find?_cons_of_neg, List.find?_cons_of_neg, List.find?_cons_of_neg,
    List.find?_cons_of_neg, List.find?_cons_of_neg, List.find?_cons_of_neg,
    List.find?_cons_of_neg, List.find?_cons_of_neg]
  · exact List.find?_cons_of_pos applies
  · simp [Rule.dateTime, candidate, only.not_date]
  · simp [Rule.enumeration, candidate, only.not_enum]
  · simp [Rule.classConstant, behind]
  · simp [Rule.literal, seen, Rule.literalOf?]
  · simp [Rule.int, no_int]
  · simp [Rule.keyword, word, only.not_keyword]
  · simp [Rule.struct, no_struct]
  · simp [Rule.arrayLike, word, only.not_list]

/-- Where a name is only that of an alias, the text of the alias is read. -/
theorem readDeclared_of_primaryBody (only : site.registry.IsAliasOnly name body)
    (bare : site.context = {}) {later : List Token}
    (unowned : ∀ mark ∈ [Punctuation.colon, .doubleColon, .question, .openBrace],
      later.head? ≠ some (.punctuation mark))
    {cursor after : Cursor} {node : Node} (tokens : cursor.tokens = .word name :: later)
    (run : primaryBody Rule.builtIn types site cursor = .ok node after) :
    types.readDeclared site (.alias name) {} body = .ok node ∧ after.tokens = later := by
  obtain ⟨eaten, here, run₁, run⟩ := EStateM.bind_eq_ok_iff.mp run
  obtain ⟨_, _, run₁', rfl, tokens⟩ :=
    Leads.eatMark_of_ne (by simp : _ ≠ some (Token.punctuation .openParen)) tokens
  rw [run₁] at run₁'
  cases run₁'
  obtain ⟨_, _, ⟨⟩, run⟩ := EStateM.bind_eq_ok_iff.mp run
  rw [find?_eq_aliasName only bare unowned tokens] at run
  obtain ⟨lexeme, _, ⟨⟩, run⟩ := EStateM.bind_eq_ok_iff.mp run
  obtain ⟨word, middle, run₂, run⟩ := EStateM.bind_eq_ok_iff.mp run
  obtain ⟨_, _, run₂', same, left⟩ := Leads.takeWord tokens
  rw [run₂] at run₂'
  cases run₂'
  rw [same, bare, alias?_eq_of_only only bare] at run
  change Rule.expandAlias types site _ { name, body, context := {} } _ = _ at run
  unfold Rule.expandAlias at run
  dsimp only at run
  split at run
  · exact absurd run failAt_ne_ok
  · obtain ⟨success, rfl⟩ := lift_eq_ok_iff.mp run
    refine ⟨?_, left⟩
    cases read : types.readDeclared site (.alias name) {} body with
    | error error =>
        rw [read] at success
        cases success
    | ok found =>
        rw [read] at success
        exact success

/-- The text of a declaration that is read by itself is read before a closing parenthesis. -/
theorem leads_of_readDeclared {parser : Parser} (rules : parser.rules = Rule.builtIn)
    {levels : Nat} {expansion : Expansion} {context : ParsingContext} {text : String}
    {inner : List Token} (spells : Token.Spells text.toList inner) {node : Node}
    (success : (parser.typeWithin levels).readDeclared site expansion context text = .ok node)
    (later : List Token) :
    Leads (parser.typeWithin levels { site with context })
      (inner ++ .punctuation .closeParen :: later) (· = node)
      (.punctuation .closeParen :: later) := by
  intro cursor' start
  obtain ⟨cursor, after, input, run, last⟩ := TypeReader.readText_eq_ok_iff.mp success
  obtain ⟨lexemes, lexed, same⟩ := Token.tokenize_of_spells spells
  have tokens := (Cursor.tokens_of_ofInput lexed input).trans same
  have keeps : (Parting.closing inner later).Keeps
      (parser.typeWithin levels { site with context, expanding := expansion :: site.expanding })
      (parser.typeWithin levels { site with context }) := by
    refine keeps_typeWithin rules (rules.trans (List.append_nil _).symm) ?_ ?_ ?_ ?_ levels
    · rfl
    · rfl
    · exact List.subset_cons_self _ _
    · intro levels
      rw [rules]
      exact bridges_of_ends rfl
  have here : (Parting.closing inner later).At [] cursor cursor' :=
    .before trivial inner (List.suffix_refl _) tokens start
  obtain ⟨_, _, after', run', rfl, there⟩ := keeps here run
  refine ⟨_, after', run', rfl, ?_⟩
  rcases there.of_atEnd spells.no_end last with ⟨_, left⟩ | ⟨rejoins, _⟩
  · exact left
  · exact rejoins.elim

/-- Where a name stands for a text, the text in parentheses is read in its place. -/
theorem bridges_opening (maxDepth : Nat) (only : registry.IsAliasOnly name body)
    {earlier later inner : List Token} (place : Token.IsTypePlace earlier later)
    (spells : Token.Spells body.toList inner) (ends : .endOfInput ∈ later) (levels : Nat) :
    (Parting.opening name place True inner).Bridges
      (primaryBody (Parser.rules { registry, maxDepth })
        (Parser.typeWithin { registry, maxDepth } levels) { registry, context := {} })
      (primaryBody (Parser.rules { registry, maxDepth })
        (Parser.typeWithin { registry, maxDepth } levels) { registry, context := {} }) := by
  rintro here here' ⟨_, tokens, tokens'⟩ found left read
  rw [rules_eq_builtIn] at read ⊢
  obtain ⟨read, left_tokens⟩ := readDeclared_of_primaryBody only rfl place.not_owner tokens read
  have inside := leads_of_readDeclared (rules_eq_builtIn registry maxDepth) spells read later
  have leads : Leads (primaryBody Rule.builtIn (Parser.typeWithin { registry, maxDepth } levels)
      { registry, context := {} }) (.punctuation .openParen ::
        (inner ++ .punctuation .closeParen :: later)) (· = found) later := by
    refine Leads.eatMark.bind ?_
    rintro _ rfl
    refine inside.bind ?_
    rintro _ rfl
    exact Leads.expectMark.bind fun _ _ => Leads.pure rfl
  obtain ⟨_, left', run', rfl, left_tokens'⟩ := leads tokens'
  have shorter : left.rest.length ≤ here.rest.length := by
    have length := congrArg List.length left_tokens
    have length' := congrArg List.length tokens
    simp only [Cursor.tokens, List.length_map, List.length_cons] at length length'
    rw [length, length']
    exact Nat.le_succ _
  refine ⟨shorter, _, left', run', rfl, .behind trivial ?_ (left_tokens.trans left_tokens'.symm)⟩
  rw [left_tokens]
  exact ends

section

variable (maxDepth : Nat) {before behind : String} {node : Node}
  (only : registry.IsAliasOnly name body) (stands : Token.StandsAsType name before behind)
  (success : Parser.parse { registry, maxDepth } (before ++ name ++ behind) = .ok node)
include only stands success

/-- The text of an alias that is used is cut into tokens. -/
theorem exists_spells_of_parse : ∃ inner, Token.Spells body.toList inner := by
  refine Classical.byContradiction fun uncut => ?_
  obtain ⟨earlier, later, lexed, place⟩ := stands
  obtain ⟨cursor, after, input, run, last⟩ := TypeReader.readText_eq_ok_iff.mp success
  have tokens := Cursor.tokens_of_ofInput lexed input
  rw [List.map_append, List.map_cons] at tokens
  obtain ⟨spells, _⟩ := Token.spells_around lexed nofun
  -- Behind the name, there is nothing to follow.
  let parting := Parting.opening name place False []
  obtain ⟨cursor', tokens'⟩ := Cursor.exists_of_tokens
    (earlier.map Lexeme.token ++ .punctuation parting.paren :: parting.later')
  have bridges (levels : Nat) : parting.Bridges
      (primaryBody (Parser.rules { registry, maxDepth })
        (Parser.typeWithin { registry, maxDepth } levels) { registry, context := {} })
      (primaryBody (Parser.rules { registry, maxDepth })
        (Parser.typeWithin { registry, maxDepth } levels) { registry, context := {} }) := by
    rintro here here' ⟨_, tokens, _⟩ found left read
    rw [rules_eq_builtIn] at read
    obtain ⟨read, _⟩ := readDeclared_of_primaryBody only rfl place.not_owner tokens read
    obtain ⟨_, _, input, _⟩ := TypeReader.readText_eq_ok_iff.mp read
    obtain ⟨inner, _, cut⟩ := Cursor.exists_spells_of_ofInput input
    exact absurd ⟨inner, cut⟩ uncut
  have keeps := keeps_typeWithin (rules_eq_builtIn registry maxDepth) rfl rfl rfl
    (List.Subset.refl _) bridges maxDepth
  have start : parting.At [] cursor cursor' :=
    .before trivial _ (List.suffix_refl _) tokens tokens'
  obtain ⟨_, _, after', _, _, there⟩ := keeps start run
  rcases there.of_atEnd spells.no_end last with ⟨ends, _⟩ | ⟨rejoins, _⟩
  · cases ends
  · exact rejoins

end

/-- A global alias in the place of a type can be replaced by its text in parentheses. -/
theorem parse_of_alias (registry : TypeRegistry) (maxDepth : Nat) {name body before behind : String}
    {node : Node} (only : registry.IsAliasOnly name body)
    (stands : Token.StandsAsType name before behind)
    (success : Parser.parse { registry, maxDepth } (before ++ name ++ behind) = .ok node) :
    Parser.parse { registry, maxDepth } (before ++ "(" ++ body ++ ")" ++ behind) = .ok node := by
  obtain ⟨inner, body_spells⟩ := exists_spells_of_parse maxDepth only stands success
  obtain ⟨earlier, later, lexed, place⟩ := stands
  obtain ⟨cursor, after, input, run, last⟩ := TypeReader.readText_eq_ok_iff.mp success
  have tokens := Cursor.tokens_of_ofInput lexed input
  rw [List.map_append, List.map_cons] at tokens
  obtain ⟨spells, behind_tokens, ends, behind_spells⟩ := Token.spells_around lexed nofun
  let parting := Parting.opening name place True inner
  have at_end : .endOfInput ∈ later.map Lexeme.token := by
    rw [ends]
    exact List.mem_append_right _ List.mem_cons_self
  have bridges := bridges_opening maxDepth only place body_spells at_end
  have keeps := keeps_typeWithin (rules_eq_builtIn registry maxDepth) rfl rfl rfl
    (List.Subset.refl _) bridges maxDepth
  have text : (before ++ "(" ++ body ++ ")" ++ behind).toList =
      before.toList ++ '(' :: (body.toList ++ ')' :: behind.toList) := by simp
  have spelled := spells.parenthesized body_spells behind_spells
  rw [← text] at spelled
  obtain ⟨lexemes, lexed', same⟩ := Token.tokenize_of_spells spelled
  obtain ⟨cursor', input', tokens'⟩ := Cursor.exists_of_tokenize lexed'
  have start : parting.At [] cursor cursor' := by
    refine .before trivial _ (List.suffix_refl _) tokens ?_
    rw [tokens', same]
    change _ = earlier.map Lexeme.token ++ .punctuation .openParen ::
      (inner ++ .punctuation .closeParen :: later.map Lexeme.token)
    rw [ends]
    simp
  obtain ⟨_, _, after', run', rfl, there⟩ := keeps start run
  refine TypeReader.readText_eq_ok_iff.mpr ⟨cursor', after', input', run', ?_⟩
  rcases there.of_atEnd spells.no_end last with ⟨ends, _⟩ | ⟨_, last⟩
  · cases ends
  · exact last

/-- Two shapes with a discriminator. -/
def shape : String :=
  "array\x7bkind: 'disc', r: int\x7d | array\x7bkind: 'bar', w: Width\x7d"

/-- An alias for both shapes, with another one in its text. -/
def shapes : TypeRegistry where
  aliases := [("Shape", shape), ("Width", "int<0, 9>")]

/-- The alias for both shapes is used within a list, beside a further member of a union. -/
theorem parse_of_shape :
    shapes.IsAliasOnly "Shape" shape ∧ Token.StandsAsType "Shape" "list<" "|null>" ∧
      ∃ node,
        Parser.parse { registry := shapes, maxDepth := 9 } ("list<" ++ "Shape" ++ "|null>") =
            .ok node ∧
          Parser.parse { registry := shapes, maxDepth := 9 }
            ("list<" ++ "(" ++ shape ++ ")" ++ "|null>") = .ok node := by
  have only : shapes.IsAliasOnly "Shape" shape :=
    ⟨rfl, by decide, by decide, rfl, by decide, rfl, rfl⟩
  have stands : Token.StandsAsType "Shape" "list<" "|null>" := by
    refine ⟨[⟨.word "list", ⟨0, 4⟩⟩, ⟨.punctuation .less, ⟨4, 5⟩⟩],
      [⟨.punctuation .pipe, ⟨10, 11⟩⟩, ⟨.word "null", ⟨11, 15⟩⟩, ⟨.punctuation .greater, ⟨15, 16⟩⟩,
        ⟨.endOfInput, ⟨16, 16⟩⟩], rfl, ?_, ?_, ?_, ?_⟩
    all_goals simp [List.suffix_cons_iff]
  have read : (Parser.parse { registry := shapes, maxDepth := 9 }
      ("list<" ++ "Shape" ++ "|null>")).toOption.isSome = true := by
    decide +kernel
  obtain ⟨node, success⟩ := Option.isSome_iff_exists.mp read
  have parsed := Except.toOption_eq_some_iff.mp success
  exact ⟨only, stands, node, parsed, parse_of_alias shapes 9 only stands parsed⟩

end Parser

end Schemata
