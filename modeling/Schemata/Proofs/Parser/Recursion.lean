import Mathlib.Logic.Relation
import Schemata.Proofs.Parser.ContractTypes

/-!
# Aliases that are being expanded already

An error about a recursive alias comes from a text that names a declaration while a declaration of
the same name is being expanded.  The two are the same one unless declarations that can be seen from
the context share a name.
-/

namespace Schemata

open Rule (AliasDeclaration)
open Relation (ReflTransGen)

/-- The cause in the innermost text. -/
def SyntaxError.Cause.root : Cause → Cause
  | .within cause _ _ => cause.root
  | cause => cause

theorem SyntaxError.Cause.isRecursiveAlias_eq_true_iff {cause : Cause} :
    cause.isRecursiveAlias = true ↔ ∃ name, cause.root = .recursiveAlias name := by
  induction cause with
  | within cause _ _ ih => exact ih
  | _ => simp [isRecursiveAlias, root]

/-- A declaration whose text is being parsed: that of an alias, or a field of a class. -/
inductive Declared where
  | ofAlias (declaration : AliasDeclaration)
  | ofClass (className : String)

def Declared.expansion : Declared → Expansion
  | .ofAlias declaration => .alias declaration.name
  | .ofClass className => .object className

/-- A text that is parsed in a context with some levels left, the declarations it is parsed on
behalf of, the innermost first, and what is wrong with it. -/
structure FailedText where
  levels : Nat
  context : ParsingContext
  stack : List Declared
  text : String
  error : SyntaxError

namespace FailedText

def site (registry : TypeRegistry) (failure : FailedText) : Site where
  registry
  context := failure.context
  expanding := failure.stack.map Declared.expansion

/-- The parser fails on the text with the error. -/
def Occurs (parser : Parser) (failure : FailedText) : Prop :=
  (parser.typeWithin failure.levels).readText (failure.site parser.registry) failure.text =
    .error failure.error

/-- A word of the text. -/
def HasWord (failure : FailedText) (lexeme : Lexeme) (word : String) : Prop :=
  ∃ lexemes, Token.tokenize failure.text = .ok lexemes ∧ lexeme ∈ lexemes ∧
    lexeme.token = .word word

/-- The error is about a word of the text: it stands for a declaration whose name is that of a
declaration that is being expanded. -/
def Reports (registry : TypeRegistry) (failure : FailedText) (declaration : AliasDeclaration) :
    Prop :=
  ∃ lexeme word, failure.HasWord lexeme word ∧
    Dict.get? failure.context.generics word = none ∧
    Rule.alias? (failure.site registry) word = some declaration ∧
    .alias declaration.name ∈ (failure.site registry).expanding ∧
    failure.error =
      { cause := .recursiveAlias declaration.name
        offset := lexeme.span.start
        token := lexeme.token.text
        input := failure.text }

/-- The inner text is that of a declaration that a word of the outer text stands for, and its error
is passed on. -/
inductive Enters (registry : TypeRegistry) (outer inner : FailedText) : Prop where
  | throughAlias {lexeme : Lexeme} {word : String} {declaration : AliasDeclaration}
      (named : outer.HasWord lexeme word) (unbound : Dict.get? outer.context.generics word = none)
      (found : Rule.alias? (outer.site registry) word = some declaration)
      (fresh : .alias declaration.name ∉ (outer.site registry).expanding)
      (text : inner.text = declaration.body) (context : inner.context = declaration.context)
      (stack : inner.stack = .ofAlias declaration :: outer.stack)
      (error : outer.error = inner.error.within .alias declaration.name)
  | throughField {lexeme : Lexeme} {word className : String} {hostClass : HostClass}
      {decl : FieldDecl} (named : outer.HasWord lexeme word)
      (found : Rule.class? (outer.site registry) word = some (className, hostClass))
      (among : decl ∈ hostClass.shape.decls)
      (text : inner.text = decl.typeText) (context : inner.context = .declaring className)
      (stack : inner.stack = .ofClass className :: outer.stack)
      (error : outer.error = inner.error.within .field s!"{className}.{decl.name}")

/-- The error of the outer text is that of the inner one, which is parsed with fewer levels. -/
structure Contains (parser : Parser) (outer inner : FailedText) : Prop where
  enters : outer.Enters parser.registry inner
  fewer : inner.levels < outer.levels
  occurs : inner.Occurs parser

/-! ## Where errors come from -/

/-- The error is at a token of the text, or it is why the text has no tokens. -/
def IsOwn (failure : FailedText) : Prop :=
  match Token.tokenize failure.text with
  | .ok lexemes => failure.error.PointsAt failure.text lexemes
  | .error unclosed => failure.error = unclosed

/-- The error is one of the text itself, and about a word of it if it is about a recursive alias, or
it is that of a declaration. -/
def HasOrigin (parser : Parser) (failure : FailedText) : Prop :=
  (failure.IsOwn ∧ (failure.error.cause.isRecursiveAlias = true →
    ∃ declaration, failure.Reports parser.registry declaration)) ∨
      ∃ inner, failure.Contains parser inner

/-- Whatever the text fails with has an origin. -/
def contract (parser : Parser) (failure : FailedText) {lexemes : List Lexeme}
    (lexed : Token.tokenize failure.text = .ok lexemes) : Contract where
  text := failure.text
  lexemes
  faulty error := HasOrigin parser { failure with error }
  plain error plain points := by
    refine .inl ⟨?_, fun recursive => nomatch plain.symm.trans recursive⟩
    unfold IsOwn
    rwa [lexed]

variable {registry : TypeRegistry} {maxDepth : Nat} {failure : FailedText} {lexemes : List Lexeme}

theorem meets_typeWithin (lexed : Token.tokenize failure.text = .ok lexemes) {levels : Nat}
    (enough : levels ≤ failure.levels) :
    (failure.contract { registry, maxDepth } lexed).Meets (fun _ => True)
      (Parser.typeWithin { registry, maxDepth } levels (failure.site registry)) := by
  induction levels with
  | zero => exact (Parser.meets_unionType_of_fail rfl).imp fun _ _ => trivial
  | succ levels ih =>
      have named {lexeme : Lexeme} {word : String} (error : SyntaxError)
          (among : lexeme ∈ lexemes) (seen : lexeme.token = .word word) :
          HasWord { failure with error } lexeme word :=
        ⟨lexemes, lexed, among, seen⟩
      refine (Parser.meets_typeWithin (fun _ _ _ _ => trivial) (Contract.hasRuns_length _)
        { here := ih (Nat.le_of_succ_le enough), bound := fun _ => trivial
          selected := fun _ _ => trivial, aliases := ?_, fields := ?_ }).imp fun _ _ => trivial
      · intro lexeme among word seen unbound declaration found
        refine Rule.meets_expandAlias (fun again cursor inside => .inl ⟨?_, fun _ => ?_⟩)
          fun fresh => ?_
        · unfold IsOwn
          rw [lexed]
          exact ⟨inside.1, lexeme, .inl among, rfl, rfl⟩
        · refine ⟨declaration, lexeme, word, named _ among seen, unbound, found, again, ?_⟩
          rw [Cursor.errorAt, inside.1]
          rfl
        · cases outcome : TypeReader.readDeclared _ _ (.alias declaration.name) _ _ with
          | ok node => trivial
          | error error =>
              refine .inr ⟨⟨levels, declaration.context,
                .ofAlias declaration :: failure.stack, declaration.body, error⟩, ?_, enough,
                outcome⟩
              exact .throughAlias (named _ among seen) unbound found fresh rfl rfl rfl rfl
      · intro lexeme among word seen className hostClass found decl member
        cases outcome : TypeReader.readDeclared _ _ (.object className) _ _ with
        | ok node => trivial
        | error error =>
            refine .inr ⟨⟨levels, .declaring className,
              .ofClass className :: failure.stack, decl.typeText, error⟩, ?_, enough, outcome⟩
            exact .throughField (named _ among seen) found member rfl rfl rfl rfl

/-- A text on which the parser fails says where the error comes from. -/
theorem hasOrigin (occurs : failure.Occurs { registry, maxDepth }) :
    failure.HasOrigin { registry, maxDepth } := by
  let faulty (error : SyntaxError) := HasOrigin { registry, maxDepth } { failure with error }
  have unclosed (error : SyntaxError) (stops : Token.tokenize failure.text = .error error) :
      faulty error := by
    refine .inl ⟨?_, fun recursive => nomatch
      (Token.isRecursiveAlias_of_tokenize stops).symm.trans recursive⟩
    unfold IsOwn
    rw [stops]
  have origin := TypeReader.readText_cases unclosed fun lexemes lexed =>
    ⟨_, rfl, rfl, rfl, meets_typeWithin lexed (Nat.le_refl _)⟩
  rw [occurs] at origin
  exact origin

theorem Enters.root_eq {outer inner : FailedText} (enters : outer.Enters registry inner) :
    inner.error.cause.root = outer.error.cause.root := by
  cases enters with
  | throughAlias _ _ _ _ _ _ _ error =>
      rw [error]
      rfl
  | throughField _ _ _ _ _ _ error =>
      rw [error]
      rfl

/-- An error about a recursive alias is passed on from a text with a word that it is about. -/
theorem exists_reports (occurs : failure.Occurs { registry, maxDepth }) {name : String}
    (recursive : failure.error.cause.root = .recursiveAlias name) :
    ∃ innermost declaration, ReflTransGen (Contains { registry, maxDepth }) failure innermost ∧
      innermost.Reports registry declaration := by
  induction levels : failure.levels using Nat.strongRecOn generalizing failure with
  | ind levels ih =>
      subst levels
      have about := SyntaxError.Cause.isRecursiveAlias_eq_true_iff.mpr ⟨name, recursive⟩
      rcases hasOrigin occurs with ⟨_, here⟩ | ⟨inner, contains⟩
      · obtain ⟨declaration, reports⟩ := here about
        exact ⟨failure, declaration, .refl, reports⟩
      · obtain ⟨innermost, declaration, path, reports⟩ :=
          ih inner.levels contains.fewer contains.occurs
            (contains.enters.root_eq.trans recursive) rfl
        exact ⟨innermost, declaration, .head contains path, reports⟩

/-! ## Declarations that are being expanded -/

/-- No two aliases of one name are being expanded. -/
def NamesOnce (failure : FailedText) : Prop :=
  ∀ declaration other, .ofAlias declaration ∈ failure.stack → .ofAlias other ∈ failure.stack →
    declaration.name = other.name → declaration = other

theorem mem_expanding {declaration : AliasDeclaration}
    (among : .ofAlias declaration ∈ failure.stack) :
    .alias declaration.name ∈ (failure.site registry).expanding :=
  List.mem_map_of_mem among

theorem exists_of_mem_expanding {name : String}
    (expanding : .alias name ∈ (failure.site registry).expanding) :
    ∃ declaration, .ofAlias declaration ∈ failure.stack ∧ declaration.name = name := by
  obtain ⟨declared, among, same⟩ := List.mem_map.mp expanding
  cases declared with
  | ofAlias declaration => exact ⟨declaration, among, Expansion.alias.inj same⟩
  | ofClass => cases same

theorem NamesOnce.of_enters {outer inner : FailedText} (once : outer.NamesOnce)
    (enters : outer.Enters registry inner) : inner.NamesOnce := by
  cases enters with
  | @throughAlias _ _ added _ _ _ fresh _ _ stack =>
      have other {declaration : AliasDeclaration} (among : .ofAlias declaration ∈ outer.stack) :
          declaration.name ≠ added.name :=
        fun same => fresh (same ▸ mem_expanding among)
      intro declaration declaration' among among' same
      rw [stack, List.mem_cons] at among among'
      rcases among with here | among <;> rcases among' with here' | among'
      · exact Declared.ofAlias.inj (here.trans here'.symm)
      · obtain rfl := Declared.ofAlias.inj here
        exact absurd same.symm (other among')
      · obtain rfl := Declared.ofAlias.inj here'
        exact absurd same (other among)
      · exact once _ _ among among' same
  | throughField _ _ _ _ _ stack =>
      intro declaration declaration' among among'
      rw [stack, List.mem_cons] at among among'
      exact once _ _ (among.resolve_left nofun) (among'.resolve_left nofun)

end FailedText

/-! ## Declarations that can be seen -/

namespace ParsingContext

/-- The contexts of the texts that can be parsed on behalf of a text in the context. -/
inductive LeadsTo (registry : TypeRegistry) (start : ParsingContext) : ParsingContext → Prop where
  | here : LeadsTo registry start start
  | throughAlias {context : ParsingContext} {word : String} {declaration : AliasDeclaration}
      (before : LeadsTo registry start context)
      (found : Rule.alias? { registry, context } word = some declaration) :
      LeadsTo registry start declaration.context
  | throughClass {context : ParsingContext} (before : LeadsTo registry start context)
      (className : String) : LeadsTo registry start (.declaring className)

/-- An alias that a word in one of these texts can stand for. -/
def Shows (registry : TypeRegistry) (start : ParsingContext) (declaration : AliasDeclaration) :
    Prop :=
  ∃ context word, start.LeadsTo registry context ∧
    Rule.alias? { registry, context } word = some declaration

/-- Aliases of one name are the same one. -/
def NamesApart (registry : TypeRegistry) (start : ParsingContext) : Prop :=
  ∀ declaration other, start.Shows registry declaration → start.Shows registry other →
    declaration.name = other.name → declaration = other

variable {registry : TypeRegistry} {start : ParsingContext}

/-- Without aliases of its own, a context knows global ones only. -/
theorem eq_of_alias? {context : ParsingContext} {word : String} {declaration : AliasDeclaration}
    (noLocal : context.localAliases = []) (noImported : context.importedAliases = [])
    (found : Rule.alias? { registry, context } word = some declaration) :
    ∃ name body, registry.alias? name = some body ∧
      declaration = { name, body, context := .declaring name } := by
  unfold Rule.alias? at found
  simp only [noLocal, noImported, Dict.get?] at found
  obtain ⟨name, _, known⟩ := List.exists_of_findSome?_eq_some found
  obtain ⟨body, registered, rfl⟩ := Option.map_eq_some_iff.mp known
  exact ⟨name, body, registered, rfl⟩

/-- Global aliases have names of their own. -/
theorem namesApart_of_global (noLocal : start.localAliases = [])
    (noImported : start.importedAliases = []) : start.NamesApart registry := by
  have own {context : ParsingContext} (leads : start.LeadsTo registry context) :
      context.localAliases = [] ∧ context.importedAliases = [] := by
    induction leads with
    | here => exact ⟨noLocal, noImported⟩
    | throughAlias _ found ih =>
        obtain ⟨_, _, _, rfl⟩ := eq_of_alias? ih.1 ih.2 found
        exact ⟨rfl, rfl⟩
    | throughClass => exact ⟨rfl, rfl⟩
  rintro declaration other ⟨_, _, leads, found⟩ ⟨_, _, leads', found'⟩ same
  obtain ⟨name, body, known, rfl⟩ := eq_of_alias? (own leads).1 (own leads).2 found
  obtain ⟨_, body', known', rfl⟩ := eq_of_alias? (own leads').1 (own leads').2 found'
  obtain rfl : name = _ := same
  cases known.symm.trans known'
  rfl

end ParsingContext

namespace FailedText

variable {registry : TypeRegistry} {maxDepth : Nat} {failure : FailedText}

/-- The text stands in a context that the start leads to, and so do the texts of the declarations
that are being expanded. -/
structure Seen (registry : TypeRegistry) (start : ParsingContext) (failure : FailedText) :
    Prop where
  context : start.LeadsTo registry failure.context
  stack : ∀ declaration, .ofAlias declaration ∈ failure.stack → start.Shows registry declaration

theorem Seen.of_enters {start : ParsingContext} {outer inner : FailedText}
    (seen : outer.Seen registry start) (enters : outer.Enters registry inner) :
    inner.Seen registry start := by
  cases enters with
  | throughAlias _ _ found _ _ context stack =>
      refine ⟨context ▸ .throughAlias seen.context found, fun declaration among => ?_⟩
      rw [stack, List.mem_cons] at among
      rcases among with here | among
      · obtain rfl := Declared.ofAlias.inj here
        exact ⟨_, _, seen.context, found⟩
      · exact seen.stack declaration among
  | throughField _ _ _ _ context stack =>
      refine ⟨context ▸ .throughClass seen.context _, fun declaration among => ?_⟩
      rw [stack, List.mem_cons] at among
      exact seen.stack declaration (among.resolve_left nofun)

/-- What holds of all texts that an error is passed on from. -/
structure Inside (registry : TypeRegistry) (start : ParsingContext) (cause : SyntaxError.Cause)
    (failure : FailedText) : Prop where
  seen : failure.Seen registry start
  once : failure.NamesOnce
  root : failure.error.cause.root = cause

theorem Inside.of_contains {start : ParsingContext} {cause : SyntaxError.Cause}
    {outer inner : FailedText} (inside : outer.Inside registry start cause)
    (path : ReflTransGen (Contains { registry, maxDepth }) outer inner) :
    inner.Inside registry start cause := by
  induction path with
  | refl => exact inside
  | tail _ contains ih =>
      have enters := contains.enters
      exact ⟨ih.seen.of_enters enters, ih.once.of_enters enters, enters.root_eq.trans ih.root⟩

def ofText (maxDepth : Nat) (context : ParsingContext) (text : String) (error : SyntaxError) :
    FailedText where
  levels := maxDepth
  context
  stack := []
  text
  error

theorem inside_ofText (context : ParsingContext) (text : String) (error : SyntaxError) :
    (ofText maxDepth context text error).Inside registry context error.cause.root where
  seen := ⟨.here, fun _ nothing => nomatch nothing⟩
  once _ _ nothing := nomatch nothing
  root := rfl

end FailedText

namespace Parser

variable {registry : TypeRegistry} {maxDepth : Nat} {context : ParsingContext} {text name : String}
  {error : SyntaxError}

/-- An error about a recursive alias comes from a text with a word for an alias of that name, and
wherever it may come from, exactly one alias of that name is being expanded.  It is the alias that
the word stands for if names are apart. -/
theorem recursion_of_parseIn
    (failed : Parser.parseIn { registry, maxDepth } context text = .error error)
    (recursive : error.cause.root = .recursiveAlias name) :
    (∃ failure declaration, ReflTransGen (FailedText.Contains { registry, maxDepth })
        (.ofText maxDepth context text error) failure ∧ failure.Reports registry declaration) ∧
      ∀ failure declaration, ReflTransGen (FailedText.Contains { registry, maxDepth })
        (.ofText maxDepth context text error) failure → failure.Reports registry declaration →
          declaration.name = name ∧ ∃ namesake,
            (∀ other, .ofAlias other ∈ failure.stack ∧ other.name = name ↔ other = namesake) ∧
            (.ofAlias declaration ∈ failure.stack ↔ declaration = namesake) ∧
            (context.NamesApart registry → declaration = namesake) := by
  refine ⟨FailedText.exists_reports failed recursive, fun failure declaration path reports => ?_⟩
  obtain ⟨seen, once, root⟩ := (FailedText.inside_ofText context text error).of_contains path
  obtain ⟨lexeme, word, _, _, found, again, about⟩ := reports
  obtain ⟨namesake, among, same⟩ := FailedText.exists_of_mem_expanding again
  have named : declaration.name = name := by
    rw [about, recursive] at root
    exact SyntaxError.Cause.recursiveAlias.inj root
  have only (other : AliasDeclaration) :
      .ofAlias other ∈ failure.stack ∧ other.name = name ↔ other = namesake := by
    constructor
    · rintro ⟨here, called⟩
      exact once other namesake here among ((called.trans named.symm).trans same.symm)
    · rintro rfl
      exact ⟨among, same.trans named⟩
  refine ⟨named, namesake, only, ?_, fun apart => ?_⟩
  · rw [← only declaration, and_iff_left named]
  · exact apart declaration namesake ⟨failure.context, word, seen.context, found⟩
      (seen.stack namesake among) same.symm

/-- Two global aliases that stand for each other. -/
def cyclic : TypeRegistry where
  aliases := [("A", "B"), ("B", "A")]

/-- The first of them is being expanded when its name is met again. -/
theorem recursion_of_cyclic :
    ∃ error, Parser.parseIn { registry := cyclic } {} "A" = .error error ∧
      error.cause.root = .recursiveAlias "A" ∧
        ∃ failure declaration, ReflTransGen (FailedText.Contains { registry := cyclic })
            (.ofText 64 {} "A" error) failure ∧
          failure.Reports cyclic declaration ∧ .ofAlias declaration ∈ failure.stack := by
  have failed : Parser.parseIn { registry := cyclic } {} "A" = .error
      { cause := .within (.within (.recursiveAlias "A") .alias "B") .alias "A"
        offset := 0
        token := "A"
        input := "A" } := by
    rfl
  refine ⟨_, failed, rfl, ?_⟩
  obtain ⟨⟨failure, declaration, path, reports⟩, every⟩ := recursion_of_parseIn failed rfl
  obtain ⟨_, namesake, _, expanding, same⟩ := every failure declaration path reports
  have apart : ParsingContext.NamesApart cyclic {} := ParsingContext.namesApart_of_global rfl rfl
  exact ⟨failure, declaration, path, reports, expanding.mpr (same apart)⟩

/-- A context where a name stands for the integers. -/
def counting : ParsingContext where
  localAliases := [("A", "int")]

/-- A context that imports an alias under the name that its text has in the context it comes
from. -/
def importing : ParsingContext where
  importedAliases := [("A", "A", counting)]

/-- What is wrong with the text of the imported alias. -/
def importedText : FailedText where
  levels := 63
  context := counting
  stack := [.ofAlias { name := "A", body := "A", context := counting }]
  text := "A"
  error := { cause := .recursiveAlias "A", offset := 0, token := "A", input := "A" }

theorem importedText_occurs : importedText.Occurs { registry := {} } := by
  unfold FailedText.Occurs
  rfl

/-- The imported alias passes for the one that its text names, which is not being expanded. -/
theorem not_expanding_of_importing :
    ∃ error, Parser.parseIn { registry := {} } importing "A" = .error error ∧
      error.cause.root = .recursiveAlias "A" ∧
        ∃ failure, ReflTransGen (FailedText.Contains { registry := {} })
            (.ofText 64 importing "A" error) failure ∧
          failure.Reports {} { name := "A", body := "int", context := counting } ∧
          .ofAlias { name := "A", body := "int", context := counting } ∉ failure.stack := by
  have word : importedText.HasWord ⟨.word "A", ⟨0, 1⟩⟩ "A" :=
    ⟨[⟨.word "A", ⟨0, 1⟩⟩, ⟨.endOfInput, ⟨1, 1⟩⟩], rfl, List.mem_cons_self, rfl⟩
  refine ⟨importedText.error.within .alias "A", rfl, rfl, importedText, .single ?_, ?_, ?_⟩
  · refine ⟨?_, Nat.lt_succ_self 63, importedText_occurs⟩
    exact .throughAlias word rfl rfl List.not_mem_nil rfl rfl rfl rfl
  · exact ⟨_, "A", word, rfl, rfl, List.mem_cons_self, rfl⟩
  · intro among
    have same := Declared.ofAlias.inj (List.mem_singleton.mp among)
    exact absurd (congrArg AliasDeclaration.body same) (by decide)

end Parser

end Schemata
