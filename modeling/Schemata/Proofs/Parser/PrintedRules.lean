import Schemata.Parser.Grammar
import Schemata.Proofs.Node.Readable
import Schemata.Proofs.Node.WellFormed
import Schemata.Proofs.Parser.Steps

/-!
# Rules on printed types

What the rules of the language read from the tokens of a readable node, when its children are read
back from theirs.
-/

namespace Schemata

open Parse

/-! ## What stands around a type -/

namespace Token

/-- The input ends, or goes on with one of some marks. -/
def Stops (marks : List Punctuation) (remaining : List Token) : Prop :=
  ∀ token ∈ remaining.head?, token = .endOfInput ∨ ∃ mark ∈ marks, token = .punctuation mark

/-- The marks that stand behind a whole type. -/
def typeEnds : List Punctuation :=
  [.comma, .greater, .closeBrace]

/-- The marks that stand behind a member of a union. -/
def memberEnds : List Punctuation :=
  .pipe :: typeEnds

/-- The marks that stand behind a primary type. -/
def primaryEnds : List Punctuation :=
  .ampersand :: memberEnds

theorem Stops.mono {marks more : List Punctuation} {remaining : List Token}
    (stops : Stops marks remaining) (contained : marks ⊆ more) : Stops more remaining := by
  intro token first
  exact (stops token first).imp_right fun ⟨mark, among, same⟩ => ⟨mark, contained among, same⟩

theorem Stops.head?_ne {marks : List Punctuation} {remaining : List Token} {mark : Punctuation}
    (stops : Stops marks remaining) (other : mark ∉ marks) :
    remaining.head? ≠ some (.punctuation mark) := by
  intro first
  rcases stops _ first with absurd | ⟨found, among, same⟩
  · cases absurd
  · cases same
    exact other among

theorem stops_mark {marks : List Punctuation} {mark : Punctuation} (among : mark ∈ marks)
    (rest : List Token) : Stops marks (.punctuation mark :: rest) := by
  rintro token ⟨⟩
  exact .inr ⟨mark, among, rfl⟩

/-- The tokens of a type: a word or a literal, and behind it what no key has behind it. -/
def Opens (tokens : List Token) : Prop :=
  ∃ head tail, tokens = head :: tail ∧ (∀ mark, head ≠ .punctuation mark) ∧ head ≠ .endOfInput ∧
    ∀ next ∈ tail.head?, ∃ mark ∈ ([.less, .openBrace, .pipe, .ampersand] : List Punctuation),
      next = .punctuation mark

theorem Opens.head?_ne {tokens : List Token} (opens : Opens tokens) (rest : List Token)
    (mark : Punctuation) : (tokens ++ rest).head? ≠ some (.punctuation mark) := by
  obtain ⟨head, tail, rfl, noMark, _⟩ := opens
  intro first
  exact noMark mark (Option.some.inj first)

/-- Behind the first token of a type stands neither a colon nor a question mark. -/
theorem Opens.second_ne {tokens remaining : List Token} (opens : Opens tokens)
    (stops : Stops primaryEnds remaining) {mark : Punctuation}
    (key : mark = .colon ∨ mark = .question) :
    (tokens ++ remaining)[1]? ≠ some (Token.punctuation mark) := by
  obtain ⟨head, tail, rfl, _, _, next⟩ := opens
  rw [List.cons_append, List.getElem?_cons_succ, ← List.head?_eq_getElem?]
  cases tail with
  | nil =>
      refine stops.head?_ne ?_
      rcases key with rfl | rfl <;> decide
  | cons second tail =>
      intro found
      obtain ⟨other, among, rfl⟩ := next second rfl
      obtain rfl : other = mark := Token.punctuation.inj (Option.some.inj found)
      rcases key with rfl | rfl <;> exact absurd among (by decide)

/-- Tokens of a type in front of a mark between members. -/
theorem Opens.append {tokens more : List Token} (opens : Opens tokens)
    (between : ∀ next ∈ more.head?, next = .punctuation .pipe ∨ next = .punctuation .ampersand) :
    Opens (tokens ++ more) := by
  obtain ⟨head, tail, rfl, noMark, noEnd, next⟩ := opens
  refine ⟨head, tail ++ more, rfl, noMark, noEnd, fun token first => ?_⟩
  cases tail with
  | nil =>
      rcases between token first with rfl | rfl
      · exact ⟨.pipe, by decide, rfl⟩
      · exact ⟨.ampersand, by decide, rfl⟩
  | cons second tail => exact next token first

theorem opens_joined {mark : Punctuation} (between : mark = .pipe ∨ mark = .ampersand)
    {runs : List (List Token)} (some_runs : runs ≠ []) (each : ∀ run ∈ runs, Opens run) :
    Opens (joined mark runs) := by
  cases runs with
  | nil => exact absurd rfl some_runs
  | cons first rest =>
      refine (each first List.mem_cons_self).append fun next found => ?_
      cases rest with
      | nil => cases found
      | cons second rest =>
          cases found
          rcases between with rfl | rfl
          · exact .inl rfl
          · exact .inr rfl

end Token

open Token

namespace Node

theorem opens_word (word : String) {mark : Punctuation}
    (opening : mark = .less ∨ mark = .openBrace) (rest : List Token) :
    Opens (.word word :: .punctuation mark :: rest) := by
  refine ⟨_, _, rfl, fun _ => Token.noConfusion, Token.noConfusion, fun next found => ?_⟩
  cases found
  exact ⟨mark, by rcases opening with rfl | rfl <;> decide, rfl⟩

/-- The tokens of a readable node begin with a word or a literal. -/
theorem opens_tokens {node : Node} (readable : node.Readable) : Opens node.tokens := by
  induction node using induction_on_children with
  | step node ih =>
      have here := readable.here
      have part (child : Node) (member : child ∈ node.children) : Opens child.tokens :=
        ih child member (readable.of_mem_children member)
      cases node with
      | builtIn kind =>
          exact ⟨_, _, rfl, fun _ => Token.noConfusion, Token.noConfusion, fun _ nothing =>
            nomatch nothing⟩
      | literal value =>
          cases value with
          | enumCase => cases here
          | _ =>
              exact ⟨_, _, rfl, fun _ => Token.noConfusion, Token.noConfusion, fun _ nothing =>
                nomatch nothing⟩
      | list item | record item => exact opens_word _ (.inl rfl) _
      | tuple elements | struct kind properties => exact opens_word _ (.inr rfl) _
      | union members discriminator =>
          rw [tokens, tokensOfAll_eq_map]
          refine opens_joined (.inl rfl) ?_ (List.forall_mem_map.mpr part)
          rintro nothing
          obtain rfl := List.map_eq_nil_iff.mp nothing
          exact absurd here.1 (by decide)
      | intersection members kind =>
          rw [tokens, tokensOfAll_eq_map]
          refine opens_joined (.inr rfl) ?_ (List.forall_mem_map.mpr part)
          rintro nothing
          obtain rfl := List.map_eq_nil_iff.mp nothing
          exact absurd here.1 (by decide)
      | enumeration | dateTime | constrained | cast | branded | named | ref => cases here

end Node

/-! ## The choice of a rule -/

namespace Cursor

variable {cursor : Cursor}

theorem word?_of_word {word : String} {rest : List Token}
    (start : cursor.tokens = .word word :: rest) : cursor.word? = some word := by
  have seen : cursor.current.token = .word word := by
    rw [cursor.token_current_eq, start]
    rfl
  rw [word?, seen]

theorem isWord_of_word {word : String} {rest : List Token}
    (start : cursor.tokens = .word word :: rest) (other : String) :
    cursor.isWord other = (word == other) := by
  rw [isWord, word?_of_word start]
  rfl

theorem word?_of_literal {value : Literal} {token : Token} {rest : List Token}
    (start : cursor.tokens = token :: rest) (stands : Rule.literalOf? token = some value) :
    cursor.word? = none := by
  have seen : cursor.current.token = token := by
    rw [cursor.token_current_eq, start]
    rfl
  rw [word?, seen]
  cases token <;> first | rfl | cases stands

end Cursor

namespace Rule

variable {cursor : Cursor} {site : Site} {others : List Rule} {remaining : List Token}

/-- The rule for what stands at a cursor before some tokens, of those of the language and others. -/
def Chosen (others : List Rule) (site : Site) (tokens : List Token) (rule : Rule) : Prop :=
  ∀ cursor : Cursor, cursor.tokens = tokens →
    (builtIn ++ others).find? (fun other => other.applies site cursor) = some rule

theorem atStruct_of_angle (word : String)
    (start : cursor.tokens = .word word :: .punctuation .less :: remaining) :
    atStruct cursor = false := by
  have noBrace : cursor.hasMarkAt 1 .openBrace = false := by
    rw [Bool.eq_false_iff, ne_eq, Cursor.hasMarkAt_eq_true_iff, start]
    simp
  unfold atStruct
  rw [noBrace]
  simp

theorem chosen_arrayLike_of_angle {word : String} (known : word ∈ listKeywords) :
    Chosen others site (.word word :: .punctuation .less :: remaining) arrayLike := by
  intro cursor start
  refine List.find?_cons_of_pos ?_
  simp only [arrayLike, Cursor.word?_of_word start, atStruct_of_angle word start]
  simpa using known

/-- In braces behind `array`, what does not begin with a key is a tuple. -/
theorem chosen_arrayLike_of_tuple {inner : List Token}
    (noKey : ∀ mark : Punctuation, mark = .colon ∨ mark = .question →
      inner[1]? ≠ some (Token.punctuation mark)) :
    Chosen others site (.word "array" :: .punctuation .openBrace :: inner) arrayLike := by
  intro cursor start
  refine List.find?_cons_of_pos ?_
  have none (mark : Punctuation) (key : mark = .colon ∨ mark = .question) :
      cursor.hasMarkAt 3 mark = false := by
    rw [Bool.eq_false_iff, ne_eq, Cursor.hasMarkAt_eq_true_iff, start]
    exact noKey mark key
  have tuple : atStruct cursor = false := by
    unfold atStruct
    rw [none .colon (.inl rfl), none .question (.inr rfl), Cursor.isWord_of_word start,
      Cursor.isWord_of_word start]
    simp
  simp only [arrayLike, Cursor.word?_of_word start, tuple]
  decide

/-- Behind `array`, a boolean begins no struct. -/
theorem chosen_arrayLike_of_bool {value : Bool} {inner : List Token} :
    Chosen others site
      (.word "array" :: .punctuation .openBrace :: .bool value :: inner) arrayLike := by
  intro cursor start
  refine List.find?_cons_of_pos ?_
  have here : cursor.tokenAt 2 = .bool value := by
    rw [cursor.tokenAt_eq, start]
    rfl
  have tuple : atStruct cursor = false := by
    unfold atStruct
    rw [here, Cursor.isWord_of_word start, Cursor.isWord_of_word start]
    simp
  simp only [arrayLike, Cursor.word?_of_word start, tuple]
  decide

theorem atStruct_of_object
    (start : cursor.tokens = .word "object" :: .punctuation .openBrace :: remaining) :
    atStruct cursor = true := by
  have brace : cursor.hasMarkAt 1 .openBrace = true := by
    rw [Cursor.hasMarkAt_eq_true_iff, start]
    rfl
  rw [atStruct, Cursor.isWord_of_word start, brace]
  rfl

/-- Behind `array`, a key begins a struct, except for the words for booleans. -/
theorem atStruct_of_key {key : Token} {optional : Bool}
    (named : ∃ name, key = .word name ∨ key = .string name)
    (start : cursor.tokens = .word "array" :: .punctuation .openBrace :: key ::
      ((if optional then [Token.punctuation .question] else []) ++
        Token.punctuation .colon :: remaining)) :
    atStruct cursor = true := by
  have brace : cursor.hasMarkAt 1 .openBrace = true := by
    rw [Cursor.hasMarkAt_eq_true_iff, start]
    rfl
  have here : cursor.tokenAt 2 = key := by
    rw [cursor.tokenAt_eq, start]
    rfl
  have colon : (cursor.hasMarkAt 3 .colon ||
      (cursor.hasMarkAt 3 .question && cursor.hasMarkAt 4 .colon)) = true := by
    simp only [Bool.or_eq_true, Bool.and_eq_true, Cursor.hasMarkAt_eq_true_iff, start]
    cases optional with
    | true => exact .inr ⟨rfl, rfl⟩
    | false => exact .inl rfl
  obtain ⟨name, same⟩ := named
  unfold atStruct
  rw [Cursor.isWord_of_word start, Cursor.isWord_of_word start, brace]
  rcases same with rfl | rfl
  all_goals
    simp only [here, colon]
    rfl

/-- The tokens of a property name and of what stands between it and its type. -/
theorem atStruct_of_array {name : String} {optional : Bool}
    (start : cursor.tokens = .word "array" :: .punctuation .openBrace :: Node.keyToken name ::
      ((if optional then [Token.punctuation .question] else []) ++
        Token.punctuation .colon :: remaining)) :
    atStruct cursor = true := by
  refine atStruct_of_key ⟨name, ?_⟩ start
  unfold Node.keyToken
  split
  · exact .inl rfl
  · exact .inr rfl

/-- The rules that are tried first. -/
theorem exists_builtIn_append (others : List Rule) :
    ∃ later, builtIn ++ others = arrayLike :: struct :: keyword :: int :: literal :: later :=
  ⟨_, rfl⟩

theorem find?_of_not_applies {rule : Rule} {later : List Rule}
    (skipped : ¬ rule.applies site cursor = true) :
    (rule :: later).find? (fun other => other.applies site cursor) =
      later.find? fun other => other.applies site cursor :=
  List.find?_cons_of_neg skipped

theorem find?_of_applies {rule : Rule} {later : List Rule}
    (taken : rule.applies site cursor = true) :
    (rule :: later).find? (fun other => other.applies site cursor) = some rule :=
  List.find?_cons_of_pos taken

/-- A struct is chosen where one begins. -/
theorem chosen_struct {tokens : List Token}
    (begins : ∀ cursor : Cursor, cursor.tokens = tokens → atStruct cursor = true) :
    Chosen others site tokens struct := by
  intro cursor start
  have noList : ¬ arrayLike.applies site cursor = true := by
    simp [arrayLike, begins cursor start]
  obtain ⟨later, rules⟩ := exists_builtIn_append others
  rw [rules, find?_of_not_applies noList]
  exact find?_of_applies (begins cursor start)

/-- Keywords of types without parts begin no list and no struct. -/
theorem not_applies_of_keyword (site : Site) (kind : BuiltIn)
    (start : cursor.tokens = .word kind.keyword :: remaining) :
    ¬ arrayLike.applies site cursor = true ∧ ¬ struct.applies site cursor = true := by
  have noStruct : atStruct cursor = false := by
    unfold atStruct
    rw [Cursor.isWord_of_word start, Cursor.isWord_of_word start]
    cases kind <;> rfl
  constructor
  · simp only [arrayLike, Cursor.word?_of_word start, noStruct]
    cases kind <;> decide
  · simp [struct, noStruct]

theorem chosen_keyword {kind : BuiltIn} (other : kind ≠ .int) :
    Chosen others site (.word kind.keyword :: remaining) keyword := by
  intro cursor start
  obtain ⟨noList, noStruct⟩ := not_applies_of_keyword site kind start
  have known : keyword.applies site cursor = true := by
    simp only [keyword, Cursor.word?_of_word start]
    cases kind <;> first | rfl | exact absurd rfl other
  obtain ⟨later, rules⟩ := exists_builtIn_append others
  rw [rules, find?_of_not_applies noList, find?_of_not_applies noStruct]
  exact find?_of_applies known

theorem chosen_int : Chosen others site (.word "int" :: remaining) int := by
  intro cursor start
  obtain ⟨noList, noStruct⟩ := not_applies_of_keyword site .int start
  have noKeyword : ¬ keyword.applies site cursor = true := by
    simp only [keyword, Cursor.word?_of_word start]
    decide
  have here : int.applies site cursor = true := by
    simp only [int, Cursor.isWord_of_word start]
    rfl
  obtain ⟨later, rules⟩ := exists_builtIn_append others
  rw [rules, find?_of_not_applies noList, find?_of_not_applies noStruct,
    find?_of_not_applies noKeyword]
  exact find?_of_applies here

theorem chosen_literal {token : Token} {value : Literal} (stands : literalOf? token = some value) :
    Chosen others site (token :: remaining) literal := by
  intro cursor start
  have noWord := Cursor.word?_of_literal start stands
  have never (word : String) : cursor.isWord word = false := by
    rw [Cursor.isWord, noWord]
    rfl
  have noList : ¬ arrayLike.applies site cursor = true := by simp [arrayLike, noWord]
  have noStruct : ¬ struct.applies site cursor = true := by simp [struct, atStruct, never]
  have noKeyword : ¬ keyword.applies site cursor = true := by simp [keyword, noWord]
  have noInt : ¬ int.applies site cursor = true := by simp [int, never]
  have seen : cursor.current.token = token := by
    rw [cursor.token_current_eq, start]
    rfl
  have here : literal.applies site cursor = true := by simp [literal, seen, stands]
  obtain ⟨later, rules⟩ := exists_builtIn_append others
  rw [rules, find?_of_not_applies noList, find?_of_not_applies noStruct,
    find?_of_not_applies noKeyword, find?_of_not_applies noInt]
  exact find?_of_applies here

/-! ## What the rules read -/

/-- A step reads a node from its tokens, up to the end of the input or one of some marks. -/
def ReadsBack (step : Parse Node) (ends : List Punctuation) (node : Node) : Prop :=
  ∀ ⦃remaining : List Token⦄, Stops ends remaining →
    Leads step (node.tokens ++ remaining) (· = node) remaining

variable {types : TypeReader}

theorem reads_keyword {kind : BuiltIn} (other : kind ≠ .int) :
    ReadsBack (keyword.read types site) primaryEnds (.builtIn kind) := by
  intro remaining _
  refine Leads.current.bind fun lexeme _ => Leads.takeWord.bind ?_
  rintro _ rfl
  have known : keywordType? kind.keyword = some (.builtIn kind) := by
    cases kind <;> first | rfl | exact absurd rfl other
  simp only [known]
  exact .pure rfl

theorem reads_int : ReadsBack (int.read types site) primaryEnds (.builtIn .int) := by
  intro remaining stops
  refine Leads.takeWord.bind fun _ _ => ?_
  refine (Leads.eatMark_of_ne (stops.head?_ne (by decide))).bind ?_
  rintro _ rfl
  exact .pure rfl

theorem reads_literal {token : Token} {value : Literal} (tokens : value.tokens = [token])
    (stands : literalOf? token = some value) :
    ReadsBack (literal.read types site) primaryEnds (.literal value) := by
  intro remaining _
  have start : (Node.literal value).tokens ++ remaining = token :: remaining := by
    rw [Node.tokens, tokens]
    rfl
  have noEnd : token.isSame .endOfInput = false := by cases token <;> first | rfl | cases stands
  rw [start]
  refine (Leads.advance noEnd).bind fun lexeme taken => ?_
  simp only [taken, stands]
  exact .pure rfl

section

variable {item : Node} (inner : ReadsBack (types site) typeEnds item)
include inner

theorem reads_list : ReadsBack (arrayLike.read types site) primaryEnds (.list item) := by
  intro remaining _
  rw [Node.tokens, List.append_assoc, List.append_assoc]
  refine Leads.takeWord.bind ?_
  rintro _ rfl
  refine Leads.get.bind fun cursor _ => Leads.eatMark.bind ?_
  rintro _ rfl
  have argument : Leads (typeArguments types site true)
      (item.tokens ++ .punctuation .greater :: remaining) (· = .list item) remaining := by
    refine Leads.current.bind fun _ _ => ?_
    refine (inner (stops_mark (by decide) _)).bind ?_
    rintro _ rfl
    refine (Leads.eatMark_of_ne (by simp)).bind ?_
    rintro _ rfl
    exact Leads.expectMark.bind fun _ _ => .pure rfl
  refine argument.bind ?_
  rintro _ rfl
  exact .pure rfl

/-- The key type of a map is a type of its own. -/
theorem reads_record (string : ReadsBack (types site) typeEnds (.builtIn .string)) :
    ReadsBack (arrayLike.read types site) primaryEnds (.record item) := by
  intro remaining _
  rw [Node.tokens, List.append_assoc, List.append_assoc]
  refine Leads.takeWord.bind ?_
  rintro _ rfl
  refine Leads.get.bind fun cursor _ => Leads.eatMark.bind ?_
  rintro _ rfl
  have arguments : Leads (typeArguments types site false)
      (.word "string" :: .punctuation .comma :: (item.tokens ++ .punctuation .greater :: remaining))
      (· = .record item) remaining := by
    refine Leads.current.bind fun _ _ => ?_
    refine (string (stops_mark (by decide) _)).bind ?_
    rintro _ rfl
    refine Leads.eatMark.bind ?_
    rintro _ rfl
    refine (inner (stops_mark (by decide) _)).bind ?_
    rintro _ rfl
    exact Leads.expectMark.bind fun _ _ => .pure rfl
  refine arguments.bind ?_
  rintro _ rfl
  exact .pure rfl

end

/-- A type that begins with an integer has no colon behind it, so the integer is no key. -/
theorem leads_tupleKey {tokens remaining : List Token} (opens : Opens tokens)
    (stops : Stops primaryEnds remaining) (position : Nat) :
    Leads (tupleKey position) (tokens ++ remaining) (fun _ => True) (tokens ++ remaining) := by
  refine Leads.get.bind fun cursor start => ?_
  have noColon : cursor.hasMarkAt 1 .colon = false := by
    rw [Bool.eq_false_iff, ne_eq, Cursor.hasMarkAt_eq_true_iff, start]
    exact opens.second_ne stops (.inl rfl)
  split
  · rw [noColon]
    exact .pure trivial
  · exact .pure trivial

/-! ## What stands in braces -/

section

variable {α : Type} {tokensOf : α → List Token} {first : α} {rest : List α}

/-- What stands behind the first of some items in braces: the closing brace, or a comma and the
further items. -/
def behindFirst (tokensOf : α → List Token) (rest : List α) (remaining : List Token) :
    List Token :=
  match rest with
  | [] => .punctuation .closeBrace :: remaining
  | second :: others =>
      .punctuation .comma ::
        (joined .comma ((second :: others).map tokensOf) ++ .punctuation .closeBrace :: remaining)

theorem joined_append_closeBrace :
    joined .comma ((first :: rest).map tokensOf) ++ .punctuation .closeBrace :: remaining =
      tokensOf first ++ behindFirst tokensOf rest remaining := by
  cases rest with
  | nil => simp [joined, behindFirst]
  | cons second others =>
      rw [List.map_cons, List.map_cons, joined_cons_cons, List.append_assoc]
      rfl

theorem stops_behindFirst : Stops typeEnds (behindFirst tokensOf rest remaining) := by
  cases rest with
  | nil => exact stops_mark (by decide) _
  | cons second others => exact stops_mark (by decide) _

/-- A comma behind an item says that there are further ones. -/
theorem leads_behindFirst {further : Parse (List α)}
    (later : rest ≠ [] → Leads further
      (joined .comma (rest.map tokensOf) ++ .punctuation .closeBrace :: remaining) (· = rest)
      (.punctuation .closeBrace :: remaining)) :
    Leads (do
        if ← Parse.eatMark .comma then
          let others ← further
          return first :: others
        else return [first])
      (behindFirst tokensOf rest remaining) (· = first :: rest)
      (.punctuation .closeBrace :: remaining) := by
  cases rest with
  | nil =>
      refine (Leads.eatMark_of_ne (by simp [behindFirst])).bind ?_
      rintro _ rfl
      exact .pure rfl
  | cons second others =>
      refine Leads.eatMark.bind ?_
      rintro _ rfl
      refine (later (by simp)).bind ?_
      rintro _ rfl
      exact .pure rfl

end

/-- No closing brace stands before an item. -/
theorem hasMarkAt_closeBrace_of_head?_ne {tokens : List Token} (start : cursor.tokens = tokens)
    (other : tokens.head? ≠ some (.punctuation .closeBrace)) :
    cursor.hasMarkAt 0 .closeBrace = false := by
  rw [Bool.eq_false_iff, ne_eq, Cursor.hasMarkAt_eq_true_iff, start, ← List.head?_eq_getElem?]
  exact other

/-- The elements of a tuple are read one by one, up to its closing brace. -/
theorem leads_tupleElements {elements : List Node}
    (opens : ∀ element ∈ elements, Opens element.tokens)
    (each : ∀ element ∈ elements, ReadsBack (types site) typeEnds element)
    (some_elements : elements ≠ []) {turns : Nat} (enough : elements.length ≤ turns)
    (position : Nat) :
    Leads (tupleElements types site turns position)
      (joined .comma (elements.map Node.tokens) ++ .punctuation .closeBrace :: remaining)
      (· = elements) (.punctuation .closeBrace :: remaining) := by
  induction elements generalizing turns position with
  | nil => exact absurd rfl some_elements
  | cons element rest ih =>
      obtain ⟨opensHere, opensLater⟩ := List.forall_mem_cons.mp opens
      obtain ⟨here, later⟩ := List.forall_mem_cons.mp each
      cases turns with
      | zero => exact absurd enough (by simp)
      | succ turns =>
          rw [joined_append_closeBrace]
          refine Leads.get.bind fun cursor start => ?_
          rw [hasMarkAt_closeBrace_of_head?_ne start (opensHere.head?_ne _ _)]
          have stops : Stops typeEnds (behindFirst Node.tokens rest remaining) := stops_behindFirst
          refine (leads_tupleKey opensHere (stops.mono (by decide)) position).bind fun _ _ => ?_
          refine (here stops).bind ?_
          rintro _ rfl
          exact leads_behindFirst fun more =>
            ih opensLater later more (Nat.le_of_succ_le_succ enough) _

theorem reads_tuple {elements : List Node} (opens : ∀ element ∈ elements, Opens element.tokens)
    (each : ∀ element ∈ elements, ReadsBack (types site) typeEnds element)
    (some_elements : elements ≠ []) :
    ReadsBack (arrayLike.read types site) primaryEnds (.tuple elements) := by
  intro remaining _
  rw [Node.tokens, Node.tokensOfAll_eq_map, List.append_assoc, List.append_assoc]
  refine Leads.takeWord.bind ?_
  rintro _ rfl
  refine Leads.get.bind fun cursor start => ?_
  refine (Leads.eatMark_of_ne (by simp)).bind ?_
  rintro _ rfl
  have brace : cursor.hasMarkAt 0 .openBrace = true := by
    rw [Cursor.hasMarkAt_eq_true_iff, start]
    rfl
  have braces : Leads (tuple types site)
      (.punctuation .openBrace :: (joined .comma (elements.map Node.tokens) ++
        .punctuation .closeBrace :: remaining)) (· = .tuple elements) remaining := by
    refine Leads.expectMark.bind fun opening _ => Leads.turns.bind ?_
    rintro _ rfl
    have enough := length_le_joined .comma (elements.map Node.tokens)
    refine (leads_tupleElements opens each some_elements ?_ 0).bind ?_
    · rw [List.length_map] at enough
      rw [List.length_append, List.length_cons]
      omega
    · rintro _ rfl
      refine Leads.expectMark.bind fun _ _ => Leads.located opening ?_
      rw [Node.tupleOf, List.isEmpty_eq_false_iff.mpr some_elements]
      rfl
  rw [brace]
  refine braces.bind ?_
  rintro _ rfl
  exact .pure rfl

/-- The name of a property is read from its token, with or without quotes. -/
theorem propertyName?_keyToken (name : String) :
    propertyName? (Node.keyToken name) = some name := by
  unfold Node.keyToken
  split <;> rfl

theorem keyToken_ne (name : String) (mark : Punctuation) :
    Node.keyToken name ≠ .punctuation mark := by
  unfold Node.keyToken
  split <;> exact Token.noConfusion

/-- The properties of a struct are read one by one, up to its closing brace. -/
theorem leads_structProperties {properties : List (Property Node)}
    (both : ∀ property ∈ properties, property.direction = .both)
    (each : ∀ property ∈ properties, ReadsBack (types site) typeEnds property.node)
    (some_properties : properties ≠ []) {turns : Nat} (enough : properties.length ≤ turns)
    (earlier : List (Property Node))
    (distinct : ((earlier ++ properties).map Property.name).Nodup) :
    Leads (structProperties types site turns earlier)
      (joined .comma (properties.map Node.propertyTokens) ++ .punctuation .closeBrace :: remaining)
      (· = properties) (.punctuation .closeBrace :: remaining) := by
  induction properties generalizing turns earlier with
  | nil => exact absurd rfl some_properties
  | cons property rest ih =>
      obtain ⟨bothHere, bothLater⟩ := List.forall_mem_cons.mp both
      obtain ⟨here, later⟩ := List.forall_mem_cons.mp each
      cases turns with
      | zero => exact absurd enough (by simp)
      | succ turns =>
          obtain ⟨name, node, optional, direction⟩ := property
          obtain rfl : direction = .both := bothHere
          rw [joined_append_closeBrace]
          refine Leads.get.bind fun cursor start => ?_
          rw [hasMarkAt_closeBrace_of_head?_ne start
            fun first => keyToken_ne name _ (Option.some.inj first)]
          refine Leads.current.bind fun keyLexeme seen => ?_
          have key : propertyName? keyLexeme.token = some name :=
            seen ▸ propertyName?_keyToken name
          simp only [key]
          have noEnd : (Node.keyToken name).isSame .endOfInput = false := by
            unfold Node.keyToken
            split <;> rfl
          refine (Leads.advance noEnd).bind fun _ _ => ?_
          have mark : Leads (Parse.eatMark .question)
              ((if optional then [Token.punctuation .question] else []) ++
                Token.punctuation .colon :: node.tokens ++
                  behindFirst Node.propertyTokens rest remaining)
              (· = optional)
              (.punctuation .colon :: node.tokens ++
                behindFirst Node.propertyTokens rest remaining) := by
            cases optional with
            | true => exact Leads.eatMark
            | false => exact Leads.eatMark_of_ne (by simp)
          refine mark.bind ?_
          rintro _ rfl
          refine Leads.expectMark.bind fun _ _ => (here stops_behindFirst).bind ?_
          rintro _ rfl
          have fresh : (earlier.any fun property => property.name == name) = false := by
            rw [List.map_append, List.nodup_append] at distinct
            rw [List.any_eq_false]
            intro other known
            rw [beq_iff_eq]
            exact distinct.2.2 _ (List.mem_map_of_mem known) name List.mem_cons_self
          simp only [fresh]
          refine leads_behindFirst fun more => ?_
          refine ih bothLater later more (Nat.le_of_succ_le_succ enough) _ ?_
          rw [List.append_assoc]
          exact distinct

/-- The tokens of a struct begin as a struct does. -/
theorem atStruct_of_properties {kind : StructKind} {properties : List (Property Node)}
    (some_properties : properties ≠ [])
    (start : cursor.tokens = .word kind.keyword :: .punctuation .openBrace ::
      (joined .comma (properties.map Node.propertyTokens) ++ remaining)) :
    atStruct cursor = true := by
  cases kind with
  | object => exact atStruct_of_object start
  | array =>
      cases properties with
      | nil => exact absurd rfl some_properties
      | cons property rest =>
          have key : cursor.tokens = .word "array" :: .punctuation .openBrace ::
              Node.keyToken property.name ::
                ((if property.optional then [Token.punctuation .question] else []) ++
                  Token.punctuation .colon :: (property.node.tokens ++
                    ((rest.map Node.propertyTokens).flatMap (.punctuation .comma :: ·) ++
                      remaining))) := by
            rw [start]
            simp [joined, Node.propertyTokens, StructKind.keyword]
          exact atStruct_of_array key

theorem reads_struct {kind : StructKind} {properties : List (Property Node)}
    (both : ∀ property ∈ properties, property.direction = .both)
    (each : ∀ property ∈ properties, ReadsBack (types site) typeEnds property.node)
    (some_properties : properties ≠ []) (distinct : (properties.map Property.name).Nodup) :
    ReadsBack (struct.read types site) primaryEnds (.struct kind properties) := by
  intro remaining _
  rw [Node.tokens, Node.tokensOfEach_eq_map, List.append_assoc, List.append_assoc]
  refine Leads.current.bind fun keywordLexeme _ => Leads.takeWord.bind ?_
  rintro _ rfl
  refine Leads.expectMark.bind fun _ _ => Leads.turns.bind ?_
  rintro _ rfl
  have enough := length_le_joined .comma (properties.map Node.propertyTokens)
  refine (leads_structProperties both each some_properties ?_ [] distinct).bind ?_
  · change _ ≤ (joined .comma _ ++ .punctuation .closeBrace :: remaining).length
    rw [List.length_map] at enough
    rw [List.length_append, List.length_cons]
    omega
  · rintro _ rfl
    refine Leads.expectMark.bind fun _ _ => Leads.located keywordLexeme ?_
    have shared : (if kind.keyword == "object" then StructKind.object else .array) = kind := by
      cases kind <;> rfl
    rw [shared]
    exact Node.structOf_of_nodup some_properties distinct

end Rule

end Schemata
