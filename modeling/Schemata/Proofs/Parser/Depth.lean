import Mathlib.Data.List.Infix
import Schemata.Proofs.Node.Nesting
import Schemata.Proofs.Parser.Aliases
import Schemata.Proofs.Parser.ContractTypes
import Schemata.Proofs.Parser.PrintedTypes

/-!
# How deep a type is nested

The levels of a parser bound how deep what it reads is nested, as long as only so many list brackets
follow each other: brackets behind a type take no level, and each pair of them adds a list.
-/

namespace Schemata

/-- Nowhere in the text stand more than some number of closed brackets in a row. -/
def Token.RunsWithin (bound : Nat) (text : String) : Prop :=
  ∀ lexemes, tokenize text = .ok lexemes → ∀ rest : List Lexeme, rest <:+ lexemes →
    brackets (rest.map Lexeme.token) ≤ bound

/-- A text is checked for runs of brackets at each of its tokens. -/
theorem Token.runsWithin_of_tails {text : String} {bound : Nat}
    (each : (tokenize text).toOption.all (fun lexemes => lexemes.tails.all fun rest =>
      brackets (rest.map Lexeme.token) ≤ bound) = true) : RunsWithin bound text := by
  intro lexemes lexed rest suffix
  rw [lexed] at each
  exact of_decide_eq_true (List.all_eq_true.mp each rest ((List.mem_tails _ _).mpr suffix))

/-- No text of an alias or of a class has a longer run of brackets. -/
structure TypeRegistry.RunsWithin (bound : Nat) (registry : TypeRegistry) : Prop where
  aliases : ∀ name body, registry.alias? name = some body → Token.RunsWithin bound body
  classes : ∀ name hostClass, registry.object? name = some hostClass →
    ∀ decl ∈ hostClass.shape.decls, Token.RunsWithin bound decl.typeText

/-- No alias of the context, or of a context it is imported from, has a longer run of brackets, and
none of these contexts binds a generic parameter. -/
inductive ParsingContext.RunsWithin (bound : Nat) : ParsingContext → Prop where
  | intro {context : ParsingContext} (generics : context.generics = [])
      (declared : ∀ name body, (name, body) ∈ context.localAliases → Token.RunsWithin bound body)
      (imported : ∀ name body inner, (name, body, inner) ∈ context.importedAliases →
        Token.RunsWithin bound body)
      (within : ∀ name body inner, (name, body, inner) ∈ context.importedAliases →
        RunsWithin bound inner) : RunsWithin bound context

theorem ParsingContext.runsWithin_declaring (bound : Nat) (qualified : String) :
    (ParsingContext.declaring qualified).RunsWithin bound :=
  .intro rfl (fun _ _ nothing => nomatch nothing) (fun _ _ _ nothing => nomatch nothing)
    fun _ _ _ nothing => nomatch nothing

/-! ## Nesting -/

namespace Node

variable {levels : Nat} {node : Node}

/-- Layers over nested nodes are nested that much deeper. -/
theorem NestedWithin.of_over {layers : Nat} (layered : Over (NestedWithin levels) layers node) :
    node.NestedWithin (levels + layers) := by
  induction layered with
  | base here => exact here.mono (Nat.le_add_right _ _)
  | layer inside ih => exact .intro ih

theorem NestedWithin.of_selectProperties {keys : List String} {keep : Bool} {result : Node}
    (nested : node.NestedWithin levels) (selected : node.selectProperties keys keep = .ok result) :
    result.NestedWithin levels := by
  induction node using induction_on_children generalizing levels result with
  | step node ih =>
      obtain ⟨inside⟩ := nested
      cases node with
      | named inner name =>
          have part := List.mem_singleton_self inner
          obtain ⟨below, found, rfl⟩ := Except.map_eq_ok_iff.mp selected
          refine .intro fun child among => ?_
          obtain rfl := List.mem_singleton.mp among
          exact ih inner part (inside inner part) found
      | cast inner target strategy =>
          have part := List.mem_singleton_self inner
          obtain ⟨below, found, rfl⟩ := Except.map_eq_ok_iff.mp selected
          refine .intro fun child among => ?_
          obtain rfl := List.mem_singleton.mp among
          exact ih inner part (inside inner part) found
      | struct kind properties =>
          obtain ⟨rfl, _, _⟩ := structOf_eq_ok selected
          refine .intro fun child among => ?_
          obtain ⟨property, chosen, rfl⟩ := List.mem_map.mp among
          exact inside _ (List.mem_map_of_mem (List.mem_filter.mp chosen).1)
      | _ => cases selected

end Node

/-! ## Bounded texts -/

namespace Parser

variable {registry : TypeRegistry} {bound : Nat}

/-- The declaration of an alias has a bounded text and a bounded context. -/
theorem runsWithin_of_alias? (declared : registry.RunsWithin bound) {site : Site}
    (same : site.registry = registry) (around : site.context.RunsWithin bound) {word : String}
    {declaration : Rule.AliasDeclaration} (found : Rule.alias? site word = some declaration) :
    Token.RunsWithin bound declaration.body ∧ declaration.context.RunsWithin bound := by
  have kept := around
  obtain ⟨_, local_, imported, within⟩ := around
  unfold Rule.alias? at found
  split at found
  next body here =>
    cases found
    exact ⟨local_ _ _ (Dict.mem_of_get?_eq_some here), kept⟩
  · split at found
    next body context here =>
      cases found
      have among := Dict.mem_of_get?_eq_some here
      exact ⟨imported _ _ _ among, within _ _ _ among⟩
    · obtain ⟨name, _, global⟩ := List.exists_of_findSome?_eq_some found
      obtain ⟨body, registered, rfl⟩ := Option.map_eq_some_iff.mp global
      rw [same] at registered
      exact ⟨declared.aliases _ _ registered, ParsingContext.runsWithin_declaring _ _⟩

/-- With each level, at most as many nodes are added as brackets can follow each other, and five
more. -/
theorem meets_typeWithin_of_runsWithin (declared : registry.RunsWithin bound)
    (maxDepth levels : Nat) (site : Site) (same : site.registry = registry)
    (around : site.context.RunsWithin bound)
    {text : String} {lexemes : List Lexeme} (runs : (Contract.lenient text lexemes).HasRuns bound) :
    (Contract.lenient text lexemes).Meets (Node.NestedWithin (levels * (bound + 5)))
      (typeWithin { registry, maxDepth } levels site) := by
  induction levels generalizing site text lexemes with
  | zero => exact (meets_unionType_of_fail rfl).imp fun _ nothing => nothing.elim
  | succ levels ih =>
      have read (expansion : Expansion) {context : ParsingContext} {body : String} {node : Node}
          (inner : context.RunsWithin bound) (few : Token.RunsWithin bound body)
          (success : (typeWithin { registry, maxDepth } levels).readDeclared site expansion context
            body = .ok node) : node.NestedWithin (levels * (bound + 5)) := by
        have makes : (Contract.lenient "" []).Makes (Node.NestedWithin (levels * (bound + 5)))
            ((typeWithin { registry, maxDepth } levels).readDeclared site expansion context
              body) := by
          refine TypeReader.makes_readText fun lexemes lexed => ?_
          exact ih { site with context, expanding := expansion :: site.expanding } same inner
            (few lexemes lexed)
        exact Contract.makes_lenient_iff.mp makes node success
      have reads : (Contract.lenient text lexemes).Reads
          (Node.NestedWithin (levels * (bound + 5))) (typeWithin { registry, maxDepth } levels)
          site := by
        refine Contract.reads_lenient (ih site same around runs) ?_ .of_selectProperties ?_ ?_
        · intro word node found
          cases around with
          | intro generics =>
              rw [generics] at found
              cases found
        · intro word declaration found node success
          obtain ⟨few, inner⟩ := runsWithin_of_alias? declared same around found
          exact read _ inner few success
        · intro word className hostClass found decl among node success
          have registered := Rule.object?_of_class? found
          rw [same] at registered
          exact read _ (ParsingContext.runsWithin_declaring _ _)
            (declared.classes _ _ registered decl among) success
      have closed : ∀ node, Node.NestedWithin (levels * (bound + 5)) node →
          ∀ child ∈ node.children, Node.NestedWithin (levels * (bound + 5)) child :=
        fun _ nested _ => nested.of_mem_children
      rw [Nat.succ_mul]
      exact (meets_typeWithin closed runs reads).imp fun _ => .of_over

/-- With at most some number of brackets in a row, in the text as well as in those of aliases and
classes, and without generic parameters, the levels of the parser bound how deep a type is
nested. -/
theorem nestedWithin_of_parseIn (declared : registry.RunsWithin bound) (maxDepth : Nat)
    {context : ParsingContext} (around : context.RunsWithin bound) {text : String}
    (runs : Token.RunsWithin bound text) {node : Node}
    (success : Parser.parseIn { registry, maxDepth } context text = .ok node) :
    node.NestedWithin (maxDepth * (bound + 5)) := by
  have makes : (Contract.lenient "" []).Makes (Node.NestedWithin (maxDepth * (bound + 5)))
      (Parser.parseIn { registry, maxDepth } context text) := by
    refine TypeReader.makes_readText fun lexemes lexed => ?_
    exact meets_typeWithin_of_runsWithin declared maxDepth maxDepth _ rfl around
      (runs lexemes lexed)
  exact Contract.makes_lenient_iff.mp makes node success

/-- Rows are lists of integers. -/
def rows : TypeRegistry where
  aliases := [("Row", "int[]")]

/-- Lists of rows use a pair of brackets in the text and one in the alias. -/
theorem nestedWithin_of_rows :
    rows.RunsWithin 1 ∧ ParsingContext.RunsWithin 1 {} ∧ Token.RunsWithin 1 "Row[]" ∧
      ∃ node, Parser.parseIn { registry := rows, maxDepth := 2 } {} "Row[]" = .ok node ∧
        node.NestedWithin 12 := by
  have declared : rows.RunsWithin 1 := by
    refine ⟨fun name body found => ?_, fun _ _ nothing => nomatch nothing⟩
    obtain ⟨rfl, rfl⟩ := Prod.mk.inj (List.mem_singleton.mp (Dict.mem_of_get?_eq_some found))
    exact Token.runsWithin_of_tails (by decide +kernel)
  have around : ParsingContext.RunsWithin 1 {} :=
    .intro rfl (fun _ _ nothing => nomatch nothing) (fun _ _ _ nothing => nomatch nothing)
      fun _ _ _ nothing => nomatch nothing
  have runs : Token.RunsWithin 1 "Row[]" := Token.runsWithin_of_tails (by decide +kernel)
  have read : (Parser.parseIn { registry := rows, maxDepth := 2 } {} "Row[]").toOption.isSome =
      true := by
    decide +kernel
  obtain ⟨node, success⟩ := Option.isSome_iff_exists.mp read
  have parsed := Except.toOption_eq_some_iff.mp success
  exact ⟨declared, around, runs, node, parsed,
    nestedWithin_of_parseIn declared 2 around runs parsed⟩

end Parser

/-! ## Runs of brackets -/

/-- A node in some number of lists. -/
def Node.lists : Nat → Node → Node
  | 0, node => node
  | count + 1, node => .list (lists count node)

theorem Node.lists_list (count : Nat) (node : Node) :
    lists count (.list node) = .list (lists count node) := by
  induction count with
  | zero => rfl
  | succ count ih => rw [lists, lists, ih]

theorem Node.not_nestedWithin_lists (count : Nat) (node : Node) :
    ¬(lists count node).NestedWithin count := by
  induction count with
  | zero => rintro ⟨⟩
  | succ count ih =>
      rintro ⟨inside⟩
      exact ih (inside _ List.mem_cons_self)

/-- Some pairs of brackets, one behind the other. -/
def Token.bracketText : Nat → List Char
  | 0 => []
  | count + 1 => '[' :: ']' :: bracketText count

theorem Token.spells_bracketText (count : Nat) :
    Spells (bracketText count) (List.replicate count (.punctuation .closedBrackets)) := by
  induction count with
  | zero => exact .nil
  | succ count ih => exact .token (by decide) rfl (by decide) ih

theorem Token.spells_int_bracketText (count : Nat) :
    Spells ("int".toList ++ bracketText count)
      (.word "int" :: List.replicate count (.punctuation .closedBrackets)) := by
  have boundary : AtBoundary (bracketText count) := by
    cases count with
    | zero => exact fun _ nothing => nomatch nothing
    | succ count =>
        rintro char ⟨⟩
        decide
  exact Node.covers_keyword .int boundary (spells_bracketText count)

namespace Parser

open Parse (Leads)

variable {remaining : List Token} {node : Node} {site : Site}

theorem leads_listBrackets (ends : remaining.head? ≠ some (.punctuation .closedBrackets))
    {count turns : Nat} (enough : count ≤ turns) :
    Leads (listBrackets turns node)
      (List.replicate count (Token.punctuation .closedBrackets) ++ remaining)
      (· = node.lists count) remaining := by
  induction count generalizing turns node with
  | zero =>
      cases turns with
      | zero => exact .pure rfl
      | succ turns =>
          refine (Leads.eatMark_of_ne ends).bind ?_
          rintro _ rfl
          exact .pure rfl
  | succ count ih =>
      obtain ⟨turns, rfl⟩ := Nat.exists_eq_succ_of_ne_zero (Nat.ne_zero_of_lt enough)
      refine Leads.eatMark.bind ?_
      rintro _ rfl
      exact (ih (Nat.le_of_succ_le_succ enough)).imp fun _ same =>
        same.trans (Node.lists_list count node)

/-- The word for integers is a primary type of its own, unless bounds follow. -/
theorem leads_int {parser : Parser} {types : TypeReader}
    (noLess : remaining.head? ≠ some (.punctuation .less)) :
    Leads (primaryBody parser.rules types site) (.word "int" :: remaining) (· = .builtIn .int)
      remaining := by
  refine leads_primaryBody (by simp) Rule.chosen_int ?_
  refine Leads.takeWord.bind fun _ _ => (Leads.eatMark_of_ne noLess).bind ?_
  rintro _ rfl
  exact .pure rfl

/-- With a single level, any number of brackets is read. -/
theorem leads_int_brackets {registry : TypeRegistry} (count : Nat) :
    Leads (typeWithin { registry, maxDepth := 1 } 1 site)
      (.word "int" :: (List.replicate count (Token.punctuation .closedBrackets) ++
        [Token.endOfInput])) (· = .lists count (.builtIn .int)) [.endOfInput] := by
  refine leads_unionType_alone (by simp) (by simp) (by simp) ?_
  refine (leads_int (by cases count <;> simp [List.replicate_succ])).bind ?_
  rintro _ rfl
  refine Leads.turns.bind ?_
  rintro _ rfl
  exact leads_listBrackets (by simp) (by simp)

/-- No bound holds for all texts, not even with a single level. -/
theorem not_exists_nestedWithin :
    ¬∃ bound, ∀ (registry : TypeRegistry) (context : ParsingContext) (text : String) (node : Node),
      context.generics = [] →
      Parser.parseIn { registry, maxDepth := 1 } context text = .ok node →
      node.NestedWithin bound := by
  rintro ⟨bound, holds⟩
  let text := String.ofList ("int".toList ++ Token.bracketText bound)
  have spells : Token.Spells text.toList
      (.word "int" :: List.replicate bound (.punctuation .closedBrackets)) := by
    rw [String.toList_ofList]
    exact Token.spells_int_bracketText bound
  refine Node.not_nestedWithin_lists bound (.builtIn .int) (holds {} {} text _ rfl ?_)
  exact TypeReader.readText_eq_ok_of_leads spells (leads_int_brackets bound)

end Parser

end Schemata
