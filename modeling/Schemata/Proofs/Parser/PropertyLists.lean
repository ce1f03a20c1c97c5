import Schemata.Proofs.Parser.Aliases
import Schemata.Proofs.Parser.ContractTypes
import Schemata.Proofs.Parser.PrintedTypes

/-!
# Lists of properties

A list of properties in braces is read alike behind `array` and behind `object`, except where its
first name is one of the words for booleans: behind `array`, these begin a tuple.
-/

namespace Schemata

/-- A property as it is written: its name, whether a question mark stands behind it, and the tokens
of its type. -/
structure PropertyText where
  key : Token
  optional : Bool
  type : List Token
  named : (Rule.propertyName? key).isSome = true
  balanced : Token.Balanced type

namespace PropertyText

def tokens (property : PropertyText) : List Token :=
  property.key :: ((if property.optional then [.punctuation .question] else []) ++
    .punctuation .colon :: property.type)

def listTokens (properties : List PropertyText) : List Token :=
  Token.joined .comma (properties.map tokens)

theorem isBrace_key (property : PropertyText) : property.key.isBrace = false :=
  Rule.isBrace_of_propertyName? property.named

theorem balanced_tokens (property : PropertyText) : Token.Balanced property.tokens := by
  refine .plain property.isBrace_key (.append ?_ (.plain rfl property.balanced))
  split
  · exact .singleton rfl
  · exact .nil

theorem balanced_listTokens (properties : List PropertyText) :
    Token.Balanced (listTokens properties) := by
  cases properties with
  | nil => exact .nil
  | cons first rest =>
      refine first.balanced_tokens.append ?_
      induction rest with
      | nil => exact .nil
      | cons property rest ih =>
          rw [List.map_cons, List.flatMap_cons]
          exact .append (.plain rfl property.balanced_tokens) ih

end PropertyText

open Parse

/-! ## Texts in braces -/

def StructKind.braced (kind : StructKind) (list : String) : String :=
  kind.keyword ++ "\x7b" ++ list ++ "\x7d"

def StructKind.bracedTokens (kind : StructKind) (list : List Token) : List Token :=
  .word kind.keyword :: .punctuation .openBrace :: (list ++ [.punctuation .closeBrace])

theorem StructKind.bracedTokens_append (kind : StructKind) (list : List Token) :
    kind.bracedTokens list ++ [Token.endOfInput] =
      Token.word kind.keyword :: Token.punctuation .openBrace ::
        (list ++ [Token.punctuation .closeBrace, Token.endOfInput]) := by
  simp [bracedTokens]

theorem Token.spells_braced (kind : StructKind) {list : String} {tokens : List Token}
    (spells : Spells list.toList tokens) :
    Spells (kind.braced list).toList (kind.bracedTokens tokens) := by
  have closing : Spells ['\x7d'] [.punctuation .closeBrace] :=
    .token (by decide) rfl Nat.one_pos .nil
  have opening : Spells ('\x7b' :: (list.toList ++ ['\x7d']))
      (.punctuation .openBrace :: (tokens ++ [Token.punctuation .closeBrace])) :=
    .token (by decide) rfl Nat.one_pos (spells.append_divider divides_closeBrace closing)
  have boundary : AtBoundary ('\x7b' :: (list.toList ++ ['\x7d'])) := by
    rintro char ⟨⟩
    decide
  have text : (kind.braced list).toList =
      kind.keyword.toList ++ '\x7b' :: (list.toList ++ ['\x7d']) := by
    simp [StructKind.braced]
  rw [text]
  exact Node.covers_structKeyword kind boundary opening

/-! ## Structs in braces -/

namespace Parse.Leads

variable {α : Type} {step : Parse α} {tokens remaining : List Token} {holds : α → Prop}

/-- What a step gives before known tokens is known. -/
theorem of_run (leads : Leads step tokens holds remaining) {cursor after : Cursor} {value : α}
    (start : cursor.tokens = tokens) (run : step cursor = .ok value after) :
    holds value ∧ after.tokens = remaining := by
  obtain ⟨_, _, run', here, left⟩ := leads start
  cases run.symm.trans run'
  exact ⟨here, left⟩

end Parse.Leads

namespace Parser

variable {registry : TypeRegistry} {maxDepth levels : Nat} {site : Site} {cursor after : Cursor}
  {list : List Token} {found : List (Property Node)} {kind : StructKind} {node : Node}

/-- The places of the tokens in a text do not matter to the properties that are read from them. -/
theorem leads_structProperties {turns : Nat} (enough : cursor.rest.length ≤ turns)
    (ends : .endOfInput ∈ cursor.tokens)
    (run : Rule.structProperties (typeWithin { registry, maxDepth } levels) site turns [] cursor =
      .ok found after) :
    Leads (Rule.structProperties (typeWithin { registry, maxDepth } levels) site turns [])
      cursor.tokens (· = found) after.tokens := by
  have rules := rules_eq_builtIn registry maxDepth
  have reads : Parting.whole.Reads (typeWithin { registry, maxDepth } levels)
      (typeWithin { registry, maxDepth } levels) site site :=
    ⟨rfl, rfl, List.Subset.refl _, keeps_typeWithin rules (rules.trans (List.append_nil _).symm)
      rfl rfl (List.Subset.refl _) (fun _ => Parting.bridges_whole) levels, fun _ _ _ _ => id⟩
  intro cursor' same
  have start : Parting.whole.At [] cursor cursor' := .behind trivial ends same.symm
  obtain ⟨_, _, after', run', rfl, there⟩ :=
    Rule.follows_structProperties reads (Nat.le_refl _) [] ⟨enough, start⟩ run
  refine ⟨_, after', run', rfl, ?_⟩
  cases there with
  | before parts => exact parts.elim
  | behind _ _ same => exact same.symm

/-- The properties that are read from a list up to its closing brace, if they make a struct. -/
structure ReadsList (registry : TypeRegistry) (maxDepth levels : Nat) (site : Site)
    (list : List Token) (found : List (Property Node)) : Prop where
  leads : Leads (Rule.structProperties (typeWithin { registry, maxDepth } levels) site
      (list ++ [Token.punctuation .closeBrace, Token.endOfInput]).length [])
    (list ++ [.punctuation .closeBrace, .endOfInput]) (· = found)
    [.punctuation .closeBrace, .endOfInput]
  some_properties : found ≠ []
  distinct : (found.map Property.name).Nodup

theorem ReadsList.leads_struct (reads : ReadsList registry maxDepth levels site list found)
    (kind : StructKind) :
    Leads (Rule.struct.read (typeWithin { registry, maxDepth } levels) site)
      (kind.bracedTokens list ++ [Token.endOfInput]) (· = .struct kind found) [.endOfInput] := by
  rw [StructKind.bracedTokens_append]
  refine Leads.current.bind fun _ _ => Leads.takeWord.bind ?_
  rintro _ rfl
  refine Leads.expectMark.bind fun _ _ => Leads.turns.bind ?_
  rintro _ rfl
  refine reads.leads.bind ?_
  rintro _ rfl
  refine Leads.expectMark.bind fun _ _ => Leads.located _ ?_
  rw [Node.structOf_of_nodup reads.some_properties reads.distinct]
  cases kind <;> rfl

/-- A struct in braces takes all tokens up to the last brace. -/
theorem readsList_of_struct (balanced : Token.Balanced list)
    (start : cursor.tokens = kind.bracedTokens list ++ [Token.endOfInput])
    (run : Rule.struct.read (typeWithin { registry, maxDepth } levels) site cursor =
      .ok node after) :
    ∃ found, ReadsList registry maxDepth levels site list found := by
  rw [StructKind.bracedTokens_append] at start
  obtain ⟨lexeme, _, ⟨⟩, run⟩ := EStateM.bind_eq_ok_iff.mp run
  obtain ⟨word, behind, take, run⟩ := EStateM.bind_eq_ok_iff.mp run
  obtain ⟨rfl, opens⟩ := Leads.takeWord.of_run start take
  obtain ⟨_, opened, expect, run⟩ := EStateM.bind_eq_ok_iff.mp run
  obtain ⟨_, left⟩ := Leads.expectMark.of_run opens expect
  obtain ⟨turns, _, ⟨⟩, run⟩ := EStateM.bind_eq_ok_iff.mp run
  obtain ⟨found, between, properties, run⟩ := EStateM.bind_eq_ok_iff.mp run
  obtain ⟨closing, closed, close, run⟩ := EStateM.bind_eq_ok_iff.mp run
  obtain ⟨built, _⟩ := located_eq_ok_iff.mp run
  obtain ⟨_, some_properties, distinct⟩ := Node.structOf_eq_ok built
  -- The tokens of the properties match in their braces, as do those of the list.
  have reads : (Contract.lenient opened.input opened.rest).Reads (fun _ => True)
      (typeWithin { registry, maxDepth } levels) site :=
    Contract.reads_lenient (meets_typeWithin_lenient registry maxDepth levels site _ _)
      (fun _ => trivial) (fun _ _ => trivial) (fun _ _ _ _ _ => trivial)
      fun _ _ _ _ _ _ _ _ => trivial
  have ends := Rule.meets_structProperties reads opened.rest.length []
    ⟨rfl, List.suffix_refl opened.rest⟩
  unfold Contract.Ends at ends
  rw [properties] at ends
  obtain ⟨⟨_, taken, rest, matched⟩, _⟩ := ends
  have closes : between.tokens = .punctuation .closeBrace :: closed.tokens := by
    rcases expectMark_cases .closeBrace between with
      ⟨_, _, run', seen, rest', _⟩ | ⟨_, _, run', _⟩
    · cases close.symm.trans run'
      rw [Cursor.tokens, rest', List.map_cons, seen, Cursor.tokens]
    · cases close.symm.trans run'
  have whole : list ++ .punctuation .closeBrace :: [Token.endOfInput] =
      taken.map Lexeme.token ++ .punctuation .closeBrace :: closed.tokens := by
    rw [← closes, ← left, Cursor.tokens, rest, List.map_append, Cursor.tokens]
  obtain ⟨_, last⟩ := balanced.unique matched whole
  have length : opened.rest.length =
      (list ++ [.punctuation .closeBrace, Token.endOfInput]).length := by
    rw [← left, Cursor.tokens, List.length_map]
  have ends : Token.endOfInput ∈ opened.tokens := by
    rw [left]
    simp
  have leads := leads_structProperties (Nat.le_refl _) ends properties
  rw [closes, ← last, left, length] at leads
  exact ⟨found, leads, some_properties, distinct⟩

/-! ## Primary types by rules -/

theorem eatMark_of_head? {mark : Punctuation}
    (absent : cursor.tokens.head? ≠ some (.punctuation mark)) :
    Parse.eatMark mark cursor = .ok false cursor := by
  rcases eatMark_cases mark cursor with ⟨lexeme, _, _, seen, rest, _⟩ | run
  · refine absurd ?_ absent
    rw [Cursor.tokens, rest, List.map_cons, seen]
    rfl
  · exact run

/-- The rule that is chosen reads the primary type. -/
theorem primaryBody_eq_read {others : List Rule} {types : TypeReader} {rule : Rule}
    (noParen : cursor.tokens.head? ≠ some (.punctuation .openParen))
    (chosen : Rule.Chosen others site cursor.tokens rule) :
    primaryBody (Rule.builtIn ++ others) types site cursor = rule.read types site cursor := by
  have look : (MonadStateOf.get : Parse Cursor) cursor = .ok cursor cursor := rfl
  unfold primaryBody
  rw [EStateM.bind_of_ok (eatMark_of_head? noParen)]
  simp only [Bool.false_eq_true, if_false]
  refine (EStateM.bind_of_ok look).trans ?_
  simp only [chosen cursor rfl]

/-- A type begins with a primary type, or with a question mark. -/
theorem primary_of_unionType {primary : Parse Node}
    (noQuestion : cursor.tokens.head? ≠ some (.punctuation .question))
    (run : unionType primary cursor = .ok node after) :
    ∃ first between, primary cursor = .ok first between := by
  obtain ⟨_, _, ⟨⟩, run⟩ := EStateM.bind_eq_ok_iff.mp run
  obtain ⟨_, _, eaten, run⟩ := EStateM.bind_eq_ok_iff.mp run
  cases eaten.symm.trans (eatMark_of_head? noQuestion)
  obtain ⟨_, _, member, _⟩ := EStateM.bind_eq_ok_iff.mp run
  obtain ⟨_, _, ⟨⟩, member⟩ := EStateM.bind_eq_ok_iff.mp member
  obtain ⟨_, _, bracketed, _⟩ := EStateM.bind_eq_ok_iff.mp member
  obtain ⟨first, between, read, _⟩ := EStateM.bind_eq_ok_iff.mp bracketed
  exact ⟨first, between, read⟩

/-! ## Whole texts -/

section

variable {context : ParsingContext} {text : String}

theorem head?_bracedTokens (kind : StructKind) (list : List Token) (mark : Punctuation) :
    (kind.bracedTokens list ++ [Token.endOfInput]).head? ≠ some (.punctuation mark) := by
  rw [StructKind.bracedTokens_append]
  exact nofun

/-- The primary type at the start of a text in braces is read by a rule. -/
theorem read_of_parseIn {rule : Rule} (spells : Token.Spells text.toList (kind.bracedTokens list))
    (chosen : Rule.Chosen [] { registry, context } (kind.bracedTokens list ++ [Token.endOfInput])
      rule)
    (success : parseIn { registry, maxDepth } context text = .ok node) :
    ∃ levels cursor first between, maxDepth = levels + 1 ∧
      cursor.tokens = kind.bracedTokens list ++ [Token.endOfInput] ∧
        rule.read (typeWithin { registry, maxDepth } levels) { registry, context } cursor =
          .ok first between := by
  obtain ⟨cursor, input, start⟩ := Cursor.exists_of_spells spells
  obtain ⟨_, after, input', run, _⟩ := TypeReader.readText_eq_ok_iff.mp success
  cases input.symm.trans input'
  cases maxDepth with
  | zero =>
      obtain ⟨_, _, absurd⟩ := primary_of_unionType (start ▸ head?_bracedTokens kind list _) run
      cases absurd
  | succ levels =>
      obtain ⟨first, between, read⟩ :=
        primary_of_unionType (start ▸ head?_bracedTokens kind list _) run
      refine ⟨levels, cursor, first, between, rfl, start, ?_⟩
      rw [← start] at chosen
      exact (primaryBody_eq_read (start ▸ head?_bracedTokens kind list _) chosen).symm.trans read

theorem ReadsList.parseIn_eq_ok (reads : ReadsList registry (levels + 1) levels
      { registry, context } list found)
    (spells : Token.Spells text.toList (kind.bracedTokens list))
    (chosen : Rule.Chosen [] { registry, context } (kind.bracedTokens list ++ [Token.endOfInput])
      Rule.struct) :
    parseIn { registry, maxDepth := levels + 1 } context text = .ok (.struct kind found) := by
  refine TypeReader.readText_eq_ok_of_leads spells ?_
  have primary : Leads (primaryBody (Parser.rules { registry, maxDepth := levels + 1 })
      (typeWithin { registry, maxDepth := levels + 1 } levels) { registry, context })
      (kind.bracedTokens list ++ [Token.endOfInput]) (· = .struct kind found) [.endOfInput] :=
    leads_primaryBody (head?_bracedTokens kind list _) chosen (reads.leads_struct kind)
  exact leads_unionType_alone (head?_bracedTokens kind list _) (by simp) (by simp)
    (leads_postfixType_alone (by simp) primary)

/-- Where a struct begins, the type of a text in braces is the struct of its properties. -/
theorem parseIn_eq_ok_iff (balanced : Token.Balanced list)
    (spells : Token.Spells text.toList (kind.bracedTokens list))
    (chosen : Rule.Chosen [] { registry, context } (kind.bracedTokens list ++ [Token.endOfInput])
      Rule.struct) :
    parseIn { registry, maxDepth } context text = .ok node ↔
      ∃ found, node = .struct kind found ∧ ∃ levels, maxDepth = levels + 1 ∧
        ReadsList registry maxDepth levels { registry, context } list found := by
  constructor
  · intro success
    obtain ⟨levels, cursor, first, between, rfl, start, run⟩ :=
      read_of_parseIn spells chosen success
    obtain ⟨found, reads⟩ := readsList_of_struct balanced start run
    have parsed := reads.parseIn_eq_ok spells chosen
    rw [success] at parsed
    exact ⟨found, Except.ok.inj parsed, levels, rfl, reads⟩
  · rintro ⟨found, rfl, levels, rfl, reads⟩
    exact reads.parseIn_eq_ok spells chosen

/-- The tokens of every type match in their braces, so any type can stand behind the colon of a
property. -/
theorem balanced_of_parseIn {tokens : List Token} (spells : Token.Spells text.toList tokens)
    (success : parseIn { registry, maxDepth } context text = .ok node) :
    Token.Balanced tokens := by
  obtain ⟨cursor, input, start⟩ := Cursor.exists_of_spells spells
  obtain ⟨_, after, input', run, last⟩ := TypeReader.readText_eq_ok_iff.mp success
  cases input.symm.trans input'
  have ends := meets_typeWithin_lenient registry maxDepth maxDepth { registry, context }
    cursor.input cursor.rest ⟨rfl, List.suffix_refl _⟩
  unfold Contract.Ends at ends
  rw [show typeWithin { registry, maxDepth } maxDepth { registry, context } cursor = _ from run]
    at ends
  obtain ⟨⟨_, taken, rest, balanced⟩, _⟩ := ends
  have whole : tokens ++ [Token.endOfInput] = taken.map Lexeme.token ++ after.tokens := by
    rw [← start, Cursor.tokens, rest, List.map_append, Cursor.tokens]
  -- The end of the input itself may be among the tokens that are taken.
  rcases List.append_eq_append_iff.mp whole with ⟨more, same, behind⟩ | ⟨more, same, behind⟩
  · cases more with
    | nil => exact (List.append_nil tokens ▸ same) ▸ balanced
    | cons token more =>
        obtain ⟨rfl, nothing⟩ := List.cons.inj behind
        obtain ⟨rfl, _⟩ := List.append_eq_nil_iff.mp nothing.symm
        rw [same] at balanced
        exact balanced.of_concat rfl
  · have seen := Cursor.token_eq_of_atEnd last
    rw [after.token_current_eq, behind] at seen
    cases more with
    | nil => exact (same.trans (List.append_nil _)) ▸ balanced
    | cons token more =>
        obtain rfl : token = .endOfInput := seen
        refine absurd ?_ spells.no_end
        rw [same]
        simp

/-! ## Lists of elements -/

section

variable {value : Bool} {mark : Punctuation} {behind : List Token}
  (key : mark = .question ∨ mark = .colon)
include key

theorem head?_ne_of_key {expected : Punctuation}
    (other : expected ≠ .question ∧ expected ≠ .colon) :
    (Token.punctuation mark :: behind).head? ≠ some (.punctuation expected) := by
  rintro ⟨⟩
  exact key.elim other.1 other.2

theorem leads_boolean :
    Leads (typeWithin { registry, maxDepth } (levels + 1) site)
      (.bool value :: .punctuation mark :: behind) (· = .literal (.bool value))
      (.punctuation mark :: behind) := by
  have literal : Leads (Rule.literal.read (typeWithin { registry, maxDepth } levels) site)
      (.bool value :: .punctuation mark :: behind) (· = .literal (.bool value))
      (.punctuation mark :: behind) := by
    refine (Leads.advance (by rfl)).bind fun lexeme taken => ?_
    simp only [taken, Rule.literalOf?]
    exact .pure rfl
  have primary : Leads (primaryBody (Parser.rules { registry, maxDepth })
      (typeWithin { registry, maxDepth } levels) site)
      (.bool value :: .punctuation mark :: behind) (· = .literal (.bool value))
      (.punctuation mark :: behind) :=
    leads_primaryBody (by simp) (Rule.chosen_literal rfl) literal
  exact leads_unionType_alone (by simp) (head?_ne_of_key key (by decide))
    (head?_ne_of_key key (by decide))
    (leads_postfixType_alone (head?_ne_of_key key (by decide)) primary)

/-- A word for a boolean is an element, and only a comma stands between elements. -/
theorem tokens_of_tupleElements {elements : List Node} {turns : Nat}
    (start : cursor.tokens = .bool value :: .punctuation mark :: behind)
    (run : Rule.tupleElements (typeWithin { registry, maxDepth } levels) site (turns + 1) 0 cursor =
      .ok elements after) :
    after.tokens = .punctuation mark :: behind := by
  have seen : cursor.current.token = .bool value := by
    rw [cursor.token_current_eq, start]
    rfl
  have noBrace : cursor.hasMarkAt 0 .closeBrace = false := by
    rw [Bool.eq_false_iff, ne_eq, Cursor.hasMarkAt_eq_true_iff, start]
    exact nofun
  rw [Rule.tupleElements] at run
  obtain ⟨_, _, ⟨⟩, run⟩ := EStateM.bind_eq_ok_iff.mp run
  rw [noBrace] at run
  obtain ⟨_, _, free, run⟩ := EStateM.bind_eq_ok_iff.mp run
  obtain ⟨_, _, ⟨⟩, free⟩ := EStateM.bind_eq_ok_iff.mp free
  simp only [seen] at free
  cases free
  obtain ⟨element, between, read, run⟩ := EStateM.bind_eq_ok_iff.mp run
  cases levels with
  | zero =>
      obtain ⟨_, _, absurd⟩ := primary_of_unionType (start ▸ nofun) read
      cases absurd
  | succ levels =>
      obtain ⟨_, ends⟩ := (leads_boolean key).of_run start read
      obtain ⟨_, _, eaten, run⟩ := EStateM.bind_eq_ok_iff.mp run
      cases eaten.symm.trans (eatMark_of_head? (ends ▸ head?_ne_of_key key (by decide)))
      cases run
      exact ends

/-- No key stands in a tuple that begins with a word for a boolean. -/
theorem tuple_ne_ok_of_boolean
    (start : cursor.tokens =
      .punctuation .openBrace :: .bool value :: .punctuation mark :: behind) :
    Rule.tuple (typeWithin { registry, maxDepth } levels) site cursor ≠ .ok node after := by
  intro run
  obtain ⟨_, opened, expect, run⟩ := EStateM.bind_eq_ok_iff.mp run
  obtain ⟨_, left⟩ := Leads.expectMark.of_run start expect
  obtain ⟨_, _, ⟨⟩, run⟩ := EStateM.bind_eq_ok_iff.mp run
  obtain ⟨elements, between, read, run⟩ := EStateM.bind_eq_ok_iff.mp run
  obtain ⟨_, _, close, _⟩ := EStateM.bind_eq_ok_iff.mp run
  have length : opened.rest.length = behind.length + 2 := by
    rw [← List.length_map Lexeme.token]
    exact congrArg List.length left
  rw [length] at read
  have ends := tokens_of_tupleElements key left read
  exact expectMark_ne_ok (ends ▸ head?_ne_of_key key (by decide)) close

theorem arrayLike_ne_ok_of_boolean
    (start : cursor.tokens = .word "array" ::
      .punctuation .openBrace :: .bool value :: .punctuation mark :: behind) :
    Rule.arrayLike.read (typeWithin { registry, maxDepth } levels) site cursor ≠
      .ok node after := by
  intro run
  obtain ⟨word, opening, take, run⟩ := EStateM.bind_eq_ok_iff.mp run
  obtain ⟨rfl, left⟩ := Leads.takeWord.of_run start take
  obtain ⟨_, _, ⟨⟩, run⟩ := EStateM.bind_eq_ok_iff.mp run
  obtain ⟨_, _, eaten, run⟩ := EStateM.bind_eq_ok_iff.mp run
  cases eaten.symm.trans (eatMark_of_head? (left ▸ nofun))
  have brace : opening.hasMarkAt 0 .openBrace = true := by
    rw [Cursor.hasMarkAt_eq_true_iff, left]
    rfl
  have noList : (true && !("array" == "list" || "array" == "non-empty-list")) = true := by decide
  rw [brace, if_neg Bool.false_ne_true, if_pos noList] at run
  obtain ⟨_, _, tuple, _⟩ := EStateM.bind_eq_ok_iff.mp run
  exact tuple_ne_ok_of_boolean key left tuple

end

/-! ## Property lists behind both keywords -/

variable {first : PropertyText} {rest : List PropertyText}

theorem exists_bracedTokens (kind : StructKind) (first : PropertyText) (rest : List PropertyText) :
    ∃ behind, kind.bracedTokens (PropertyText.listTokens (first :: rest)) ++ [Token.endOfInput] =
      .word kind.keyword :: .punctuation .openBrace :: first.key ::
        ((if first.optional then [Token.punctuation .question] else []) ++
          Token.punctuation .colon :: behind) := by
  refine ⟨first.type ++ (rest.map PropertyText.tokens).flatMap (.punctuation .comma :: ·) ++
    [Token.punctuation .closeBrace, .endOfInput], ?_⟩
  simp [StructKind.bracedTokens, PropertyText.listTokens, PropertyText.tokens, Token.joined]

theorem chosen_object :
    Rule.Chosen [] site (StructKind.object.bracedTokens (PropertyText.listTokens (first :: rest)) ++
      [Token.endOfInput]) Rule.struct :=
  Rule.chosen_struct fun _ start => Rule.atStruct_of_object start

theorem chosen_array (other : ∀ value, first.key ≠ .bool value) :
    Rule.Chosen [] site (StructKind.array.bracedTokens (PropertyText.listTokens (first :: rest)) ++
      [Token.endOfInput]) Rule.struct := by
  obtain ⟨behind, tokens⟩ := exists_bracedTokens .array first rest
  refine Rule.chosen_struct fun cursor start => Rule.atStruct_of_key ?_ (start.trans tokens)
  have named := first.named
  cases key : first.key with
  | word name => exact ⟨name, .inl rfl⟩
  | string name => exact ⟨name, .inr rfl⟩
  | bool value => exact absurd key (other value)
  | _ =>
      rw [key] at named
      cases named

theorem not_ok_of_boolean {value : Bool} (boolean : first.key = .bool value)
    (spells : Token.Spells text.toList
      (StructKind.array.bracedTokens (PropertyText.listTokens (first :: rest)))) :
    parseIn { registry, maxDepth } context text ≠ .ok node := by
  intro success
  obtain ⟨behind, tokens⟩ := exists_bracedTokens .array first rest
  rw [boolean] at tokens
  have chosen : Rule.Chosen [] { registry, context }
      (StructKind.array.bracedTokens (PropertyText.listTokens (first :: rest)) ++
        [Token.endOfInput]) Rule.arrayLike :=
    tokens ▸ Rule.chosen_arrayLike_of_bool
  obtain ⟨levels, cursor, _, _, rfl, start, run⟩ := read_of_parseIn spells chosen success
  rw [tokens] at start
  cases optional : first.optional with
  | true =>
      rw [optional] at start
      exact arrayLike_ne_ok_of_boolean (.inl rfl) start run
  | false =>
      rw [optional] at start
      exact arrayLike_ne_ok_of_boolean (.inr rfl) start run

end

end Parser

namespace StructKind

/-- Either both outcomes are structs of the same properties, one of each kind, or neither is a
type. -/
def Alike (array object : Except SyntaxError Node) : Prop :=
  (∃ found, array = .ok (.struct .array found) ∧ object = .ok (.struct .object found)) ∨
    ∃ error error', array = .error error ∧ object = .error error'

variable {registry : TypeRegistry} {maxDepth : Nat} {context : ParsingContext}
  {first : PropertyText} {rest : List PropertyText} {list : String}

theorem alike_of_iff {array object : Except SyntaxError Node}
    {reads : List (Property Node) → Prop}
    (array_iff : ∀ node, array = .ok node ↔ ∃ found, node = .struct .array found ∧ reads found)
    (object_iff : ∀ node, object = .ok node ↔ ∃ found, node = .struct .object found ∧ reads found) :
    Alike array object := by
  cases outcome : array with
  | ok node =>
      obtain ⟨found, rfl, here⟩ := (array_iff node).mp outcome
      exact .inl ⟨found, rfl, (object_iff _).mpr ⟨found, rfl, here⟩⟩
  | error error =>
      cases other : object with
      | error error' => exact .inr ⟨error, error', rfl, rfl⟩
      | ok node =>
          obtain ⟨found, rfl, here⟩ := (object_iff node).mp other
          have read := (array_iff _).mpr ⟨found, rfl, here⟩
          rw [outcome] at read
          cases read

/-- A list of properties is read alike behind both keywords, unless its first name is a word for a
boolean and it makes an `object`. -/
theorem alike_braced_iff
    (spells : Token.Spells list.toList (PropertyText.listTokens (first :: rest))) :
    Alike (Parser.parseIn { registry, maxDepth } context (array.braced list))
        (Parser.parseIn { registry, maxDepth } context (object.braced list)) ↔
      ((∃ value, first.key = .bool value) → ∃ error,
        Parser.parseIn { registry, maxDepth } context (object.braced list) = .error error) := by
  have balanced := PropertyText.balanced_listTokens (first :: rest)
  have behindArray := Token.spells_braced array spells
  have behindObject := Token.spells_braced object spells
  constructor
  · rintro (⟨found, accepted, _⟩ | ⟨_, error, _, rejected⟩) ⟨value, boolean⟩
    · exact absurd accepted (Parser.not_ok_of_boolean boolean behindArray)
    · exact ⟨error, rejected⟩
  · intro condition
    by_cases boolean : ∃ value, first.key = .bool value
    · obtain ⟨error, rejected⟩ := condition boolean
      obtain ⟨value, boolean⟩ := boolean
      cases outcome : Parser.parseIn { registry, maxDepth } context (array.braced list) with
      | ok node => exact absurd outcome (Parser.not_ok_of_boolean boolean behindArray)
      | error error' => exact .inr ⟨error', error, rfl, rejected⟩
    · have other := not_exists.mp boolean
      exact alike_of_iff
        (fun _ => Parser.parseIn_eq_ok_iff balanced behindArray (Parser.chosen_array other))
        (fun _ => Parser.parseIn_eq_ok_iff balanced behindObject Parser.chosen_object)

/-- A boolean's word may stand behind another name. -/
theorem alike_braced_of_later_boolean :
    let first : PropertyText := ⟨.word "a", true, [.word "int"], rfl, .plain rfl .nil⟩
    let second : PropertyText :=
      ⟨.bool true, false, [.punctuation .question, .word "int"], rfl, .plain rfl (.plain rfl .nil)⟩
    Token.Spells "a?: int, true: ?int".toList (PropertyText.listTokens [first, second]) ∧
      ∃ found,
        Parser.parse { registry := {} } "array\x7ba?: int, true: ?int\x7d" =
            .ok (.struct .array found) ∧
          Parser.parse { registry := {} } "object\x7ba?: int, true: ?int\x7d" =
            .ok (.struct .object found) := by
  intro first second
  have spells : Token.Spells "a?: int, true: ?int".toList
      (PropertyText.listTokens [first, second]) := by
    refine .token rfl rfl (by decide) (.token rfl rfl (by decide) (.token rfl rfl (by decide) ?_))
    refine .blank rfl (.token rfl rfl (by decide) (.token rfl rfl (by decide) ?_))
    refine .blank rfl (.token rfl rfl (by decide) (.token rfl rfl (by decide) ?_))
    exact .blank rfl (.token rfl rfl (by decide) (.token rfl rfl (by decide) .nil))
  have no_boolean : ¬∃ value, first.key = .bool value := by
    rintro ⟨_, ⟨⟩⟩
  have alike : Alike
      (Parser.parseIn { registry := {} } {} (array.braced "a?: int, true: ?int"))
      (Parser.parseIn { registry := {} } {} (object.braced "a?: int, true: ?int")) :=
    (alike_braced_iff spells).mpr fun boolean => absurd boolean no_boolean
  have read : (Parser.parse { registry := {} } "array\x7ba?: int, true: ?int\x7d").toOption.isSome =
      true := by
    decide +kernel
  rcases alike with accepted | ⟨error, _, rejected, _⟩
  · exact ⟨spells, accepted⟩
  · have outcome : Parser.parse { registry := {} } "array\x7ba?: int, true: ?int\x7d" =
      .error error := rejected
    rw [outcome] at read
    cases read

/-- Behind `array`, a list whose first name is the word `true` is no struct. -/
theorem not_alike_of_true :
    let first : PropertyText := ⟨.bool true, false, [.word "int"], rfl, .plain rfl .nil⟩
    Token.Spells "true: int".toList (PropertyText.listTokens [first]) ∧
      ¬Alike (Parser.parse { registry := {} } "array\x7btrue: int\x7d")
        (Parser.parse { registry := {} } "object\x7btrue: int\x7d") := by
  intro first
  refine ⟨.token rfl rfl (by decide) (.token rfl rfl (by decide)
    (.blank rfl (.token rfl rfl (by decide) .nil))), ?_⟩
  have rejected : (Parser.parse { registry := {} } "array\x7btrue: int\x7d").toOption.isSome =
      false := by
    decide +kernel
  have accepted : (Parser.parse { registry := {} } "object\x7btrue: int\x7d").toOption.isSome =
      true := by
    decide +kernel
  rintro (⟨found, array, _⟩ | ⟨_, error, _, object⟩)
  · rw [array] at rejected
    cases rejected
  · rw [object] at accepted
    cases accepted

end StructKind

end Schemata
