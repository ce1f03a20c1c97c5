import Schemata.Parser.Grammar
import Schemata.Proofs.Parser.ContractRules

/-!
# Types under a contract

A type keeps to a contract when the primary types in it do.  Over them stand as many lists as
brackets follow in a row, an intersection and a union.
-/

namespace Schemata

open Node (Over)

/-- The number of closed brackets at the start of some tokens. -/
def Token.brackets : List Token → Nat
  | .punctuation .closedBrackets :: rest => brackets rest + 1
  | _ => 0

theorem Token.brackets_le_length (tokens : List Token) : brackets tokens ≤ tokens.length := by
  fun_induction brackets tokens with
  | case1 rest ih => exact Nat.succ_le_succ ih
  | case2 => exact Nat.zero_le _

/-- Nowhere in the text stand more than some number of closed brackets in a row. -/
def Contract.HasRuns (contract : Contract) (bound : Nat) : Prop :=
  ∀ rest : List Lexeme, rest <:+ contract.lexemes → Token.brackets (rest.map Lexeme.token) ≤ bound

theorem Contract.hasRuns_length (contract : Contract) :
    contract.HasRuns contract.lexemes.length := by
  intro rest suffix
  refine Nat.le_trans (Token.brackets_le_length _) ?_
  rw [List.length_map]
  exact suffix.length_le

namespace Parser

variable {contract : Contract} {base : Node → Prop} {primary : Parse Node} {layers bound : Nat}

theorem ends_listBrackets (turns : Nat) {node : Node} (layered : Over base layers node)
    {cursor : Cursor} (inside : contract.Inside cursor) :
    contract.Ends (Over base (layers + Token.brackets cursor.tokens)) cursor
      (listBrackets turns node) := by
  induction turns generalizing node layers cursor with
  | zero => exact ⟨.refl cursor, layered.mono (Nat.le_add_right _ _)⟩
  | succ turns ih =>
      have step : contract.Ends (Over base (layers + Token.brackets cursor.tokens)) cursor (do
          if ← Parse.eatMark .closedBrackets then listBrackets turns (.list node)
          else return node) := by
        unfold Contract.Ends
        rcases Parse.eatMark_cases .closedBrackets cursor with
          ⟨lexeme, after, run, seen, rest, input⟩ | run
        · have reaches : cursor.Reaches after :=
            ⟨input, [lexeme], rest, .singleton (by rw [seen]; rfl)⟩
          have count : Token.brackets cursor.tokens = Token.brackets after.tokens + 1 := by
            rw [Cursor.tokens, rest, List.map_cons, seen]
            rfl
          have list : Over base (layers + 1) (.list node) := .around rfl layered
          have onward := ih list (inside.reaches reaches)
          rw [EStateM.bind_of_ok run, count, ← Nat.add_assoc, Nat.add_right_comm]
          exact onward.behind reaches
        · rw [EStateM.bind_of_ok run]
          exact ⟨.refl cursor, layered.mono (Nat.le_add_right _ _)⟩
      exact step

theorem meets_postfixType (runs : contract.HasRuns bound)
    (reads : contract.Meets (Over base layers) primary) :
    contract.Meets (Over base (layers + bound)) (postfixType primary) := by
  refine reads.bind fun node layered => .andThen .turns fun turns cursor inside => ?_
  refine (ends_listBrackets turns layered inside).imp fun result => Over.mono ?_
  exact Nat.add_le_add_left (runs cursor.rest inside.2) layers

theorem meets_intersectionType (runs : contract.HasRuns bound)
    (reads : contract.Meets (Over base layers) primary) :
    contract.Meets (Over base (layers + bound + 1)) (intersectionType primary) := by
  have each := meets_postfixType runs reads
  refine .bind .current fun lexeme has => each.bind fun first here =>
    .andThen .turns fun turns => ?_
  refine (each.following rfl turns).bind fun others later => ?_
  split
  · exact .pure (here.mono (Nat.le_succ _))
  · exact .located has (Node.over_intersectionOf (List.forall_mem_cons.mpr ⟨here, later⟩))

theorem over_of_mem_flattened (closed : ∀ node, base node → ∀ child ∈ node.children, base child)
    {node member : Node} (layered : Over base layers node) (among : member ∈ flattened node) :
    Over base layers member := by
  unfold flattened at among
  split at among
  · exact layered.of_mem_children closed among
  · exact List.mem_singleton.mp among ▸ layered

theorem over_unionNode {members : List Node}
    (each : ∀ member ∈ members, Over base layers member) :
    Contract.Builds (Over base (layers + 1)) (unionNode members) := by
  unfold unionNode
  split
  · exact Node.over_discriminatedUnionOf _ each
  · exact Node.over_unionOf each

theorem meets_unionType (closed : ∀ node, base node → ∀ child ∈ node.children, base child)
    (runs : contract.HasRuns bound) (reads : contract.Meets (Over base (layers + 1)) primary) :
    contract.Meets (Over base (layers + 1 + bound + 2)) (unionType primary) := by
  have each := meets_intersectionType runs reads
  refine .bind .current fun lexeme has => .andThen (.eatMark rfl) fun nullable => ?_
  refine each.bind fun first here => .andThen .turns fun turns => ?_
  refine (each.following rfl turns).bind fun others later => ?_
  have members : ∀ member ∈ (if nullable then [Node.builtIn .null] else []) ++ first :: others,
      Over base (layers + 1 + bound + 1) member := by
    intro member among
    rcases List.mem_append.mp among with null | rest
    · split at null
      · obtain rfl := List.mem_singleton.mp null
        exact .leaf rfl
      · cases null
    · exact List.forall_mem_cons.mpr ⟨here, later⟩ member rest
  dsimp only
  generalize (if nullable then [Node.builtIn .null] else []) ++ first :: others = all at members
  split
  · exact .pure ((members _ List.mem_cons_self).mono (Nat.le_succ _))
  · refine .located has (over_unionNode fun member among => ?_)
    obtain ⟨origin, inside, from_⟩ := List.mem_flatMap.mp among
    exact over_of_mem_flattened closed (members origin inside) from_

/-- Where no primary type can be read, no type can. -/
theorem meets_unionType_of_fail {cause : SyntaxError.Cause}
    (unrelated : cause.isRecursiveAlias = false) :
    contract.Meets (fun _ => False) (unionType (Parse.fail cause)) := by
  have primary : contract.Meets (fun _ => False) (Parse.fail cause : Parse Node) :=
    .fail unrelated
  have postfix_ : contract.Meets (fun _ => False) (postfixType (Parse.fail cause)) :=
    primary.bind fun _ nothing => nothing.elim
  have intersection : contract.Meets (fun _ => False) (intersectionType (Parse.fail cause)) :=
    .andThen .current fun _ => postfix_.bind fun _ nothing => nothing.elim
  exact .andThen .current fun _ => .andThen (.eatMark rfl) fun _ =>
    intersection.bind fun _ nothing => nothing.elim

theorem meets_primaryBody {types : TypeReader} {site : Site}
    (reads : contract.Reads base types site) :
    contract.Meets (Over base 3) (primaryBody Rule.builtIn types site) := by
  refine .andThen (.eatMark rfl) fun parenthesized => ?_
  cases parenthesized with
  | true =>
      exact reads.here.bind fun node here => .andThen (.expectMark rfl) fun _ => .pure (.base here)
  | false =>
      refine .andThen .look fun cursor => ?_
      split
      next rule found => exact Rule.meets_of_mem_builtIn reads (List.mem_of_find?_eq_some found)
      · split <;> exact .fail rfl

/-- Over what is read with one level less stand at most five layers and the lists of one run of
brackets. -/
theorem meets_typeWithin {registry : TypeRegistry} {maxDepth levels : Nat} {site : Site}
    (closed : ∀ node, base node → ∀ child ∈ node.children, base child)
    (runs : contract.HasRuns bound)
    (reads : contract.Reads base (typeWithin { registry, maxDepth } levels) site) :
    contract.Meets (Over base (bound + 5))
      (typeWithin { registry, maxDepth } (levels + 1) site) := by
  have rules : Parser.rules { registry, maxDepth } = Rule.builtIn := List.append_nil _
  have primary := meets_primaryBody reads
  have union := meets_unionType closed runs primary
  unfold typeWithin
  rw [rules]
  exact union.imp fun node => Over.mono (by omega)

end Parser

/-! ## Texts -/

/-- A text without tokens has an open string in it. -/
theorem Token.isRecursiveAlias_of_tokenize {text : String} {error : SyntaxError}
    (stops : tokenize text = .error error) : error.cause.isRecursiveAlias = false := by
  unfold tokenize at stops
  dsimp only at stops
  cases scanned : scan text.toList.length 0 text.toList with
  | ok lexemes =>
      rw [scanned] at stops
      cases stops
  | error unclosed =>
      rw [scanned] at stops
      cases stops
      rfl

/-- The type of a text ends as the type at the start of its tokens does, unless it has none. -/
theorem TypeReader.readText_cases {types : TypeReader} {site : Site} {text : String}
    {holds : Node → Prop} {faulty : SyntaxError → Prop}
    (unclosed : ∀ error, Token.tokenize text = .error error → faulty error)
    (reads : ∀ lexemes, Token.tokenize text = .ok lexemes → ∃ contract : Contract,
      contract.text = text ∧ contract.lexemes = lexemes ∧ contract.faulty = faulty ∧
        contract.Meets holds (types site)) :
    match types.readText site text with
    | .ok node => holds node
    | .error error => faulty error := by
  unfold TypeReader.readText Cursor.ofInput
  cases lexed : Token.tokenize text with
  | error error => exact unclosed error lexed
  | ok lexemes =>
      obtain ⟨contract, rfl, rfl, rfl, meets⟩ := reads lexemes lexed
      have complete : contract.Meets holds (types.complete site) := by
        refine meets.bind fun node here => .andThen .look fun cursor => ?_
        split
        · exact .pure here
        · exact .fail rfl
      have inside : contract.Inside { input := contract.text, rest := contract.lexemes } :=
        ⟨rfl, List.suffix_refl _⟩
      have ends := complete inside
      unfold Contract.Ends at ends
      dsimp only [Except.map, EStateM.run]
      cases run : types.complete site { input := contract.text, rest := contract.lexemes } with
      | ok node after =>
          rw [run] at ends
          exact ends.2
      | error error after =>
          rw [run] at ends
          exact ends

/-- An alias is being expanded already, or its text is read. -/
theorem Rule.meets_expandAlias {contract : Contract} {holds : Node → Prop} {types : TypeReader}
    {site : Site} {lexeme : Lexeme} {declaration : AliasDeclaration}
    (again : .alias declaration.name ∈ site.expanding → ∀ cursor, contract.Inside cursor →
      contract.faulty (cursor.errorAt lexeme (.recursiveAlias declaration.name)))
    (read : Expansion.alias declaration.name ∉ site.expanding → contract.Makes holds
      ((types.readDeclared site (.alias declaration.name) declaration.context
        declaration.body).mapError (·.within .alias declaration.name))) :
    contract.Meets holds (expandAlias types site lexeme declaration) := by
  unfold expandAlias
  dsimp only
  split
  next expanding =>
    exact fun cursor inside => again (List.contains_iff_mem.mp expanding) cursor inside
  next fresh => exact .lift (read fun expanding => fresh (List.contains_iff_mem.mpr expanding))

/-! ## Any errors -/

namespace Contract

/-- The contract of a text that admits all errors. -/
def lenient (text : String) (lexemes : List Lexeme) : Contract where
  text
  lexemes
  faulty _ := True
  plain _ _ _ := trivial

variable {text : String} {lexemes : List Lexeme} {holds : Node → Prop} {types : TypeReader}
  {site : Site}

theorem makes_lenient_iff {outcome : Except SyntaxError Node} :
    (lenient text lexemes).Makes holds outcome ↔ ∀ node, outcome = .ok node → holds node := by
  cases outcome with
  | ok value => exact ⟨fun here node same => Except.ok.inj same ▸ here, fun each => each _ rfl⟩
  | error error => exact ⟨fun _ _ same => (nomatch same), fun _ => trivial⟩

theorem makes_mapError_lenient {outcome : Except SyntaxError Node}
    {change : SyntaxError → SyntaxError}
    (makes : (lenient text lexemes).Makes holds outcome) :
    (lenient text lexemes).Makes holds (outcome.mapError change) := by
  cases outcome with
  | ok value => exact makes
  | error error => trivial

/-- Where all errors are admitted, only what is read matters. -/
theorem reads_lenient {base : Node → Prop} (here : (lenient text lexemes).Meets base (types site))
    (bound : ∀ {word node}, Dict.get? site.context.generics word = some node → base node)
    (selected : ∀ {keys keep node result}, base node →
      node.selectProperties keys keep = .ok result → base result)
    (aliases : ∀ word declaration, Rule.alias? site word = some declaration → ∀ node,
      types.readDeclared site (.alias declaration.name) declaration.context declaration.body =
        .ok node → base node)
    (fields : ∀ word className hostClass, Rule.class? site word = some (className, hostClass) →
      ∀ decl ∈ hostClass.shape.decls, ∀ node,
        types.readDeclared site (.object className) (.declaring className) decl.typeText =
          .ok node → base node) :
    (lenient text lexemes).Reads base types site where
  here
  bound
  selected
  aliases _ _ word _ _ declaration found :=
    Rule.meets_expandAlias (fun _ _ _ => trivial) fun _ =>
      makes_mapError_lenient (makes_lenient_iff.mpr (aliases word declaration found))
  fields _ _ word _ className hostClass found decl among :=
    makes_mapError_lenient <| makes_lenient_iff.mpr <|
      fields word className hostClass found decl among

end Contract

/-- Where all errors are admitted, the type of a text is what the type at the start of its tokens
is. -/
theorem TypeReader.makes_readText {types : TypeReader} {site : Site} {text text' : String}
    {lexemes' : List Lexeme} {holds : Node → Prop}
    (reads : ∀ lexemes, Token.tokenize text = .ok lexemes →
      (Contract.lenient text lexemes).Meets holds (types site)) :
    (Contract.lenient text' lexemes').Makes holds (types.readText site text) := by
  have cases_ := readText_cases (fun _ _ => trivial) fun lexemes lexed =>
    ⟨.lenient text lexemes, rfl, rfl, rfl, reads lexemes lexed⟩
  refine Contract.makes_lenient_iff.mpr fun node read => ?_
  rwa [read] at cases_

namespace Parser

/-- Whatever a parser reads, it takes tokens whose braces match. -/
theorem meets_typeWithin_lenient (registry : TypeRegistry) (maxDepth levels : Nat) (site : Site)
    (text : String) (lexemes : List Lexeme) :
    (Contract.lenient text lexemes).Meets (fun _ => True)
      (typeWithin { registry, maxDepth } levels site) := by
  induction levels generalizing site text lexemes with
  | zero => exact (meets_unionType_of_fail rfl).imp fun _ _ => trivial
  | succ levels ih =>
      have reads : (Contract.lenient text lexemes).Reads (fun _ => True)
          (typeWithin { registry, maxDepth } levels) site :=
        Contract.reads_lenient (ih site text lexemes) (fun _ => trivial) (fun _ _ => trivial)
          (fun _ _ _ _ _ => trivial) fun _ _ _ _ _ _ _ _ => trivial
      exact (meets_typeWithin (fun _ _ _ _ => trivial) (Contract.hasRuns_length _) reads).imp
        fun _ _ => trivial

end Parser

end Schemata
