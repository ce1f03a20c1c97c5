import Schemata.Parser.Grammar
import Schemata.Proofs.Node.WellFormed
import Schemata.Proofs.Parser.Results

/-!
# Parsed nodes are well formed

Each rule of the language gives well-formed nodes when the types it reads do.  So every type that is
read is well formed, the texts of declarations included, as long as the types that are bound to
generic parameters are.
-/

namespace Schemata

open Parse

/-- The types bound to generic parameters are well formed, here and wherever an imported alias is
declared. -/
inductive ParsingContext.WellFormed : ParsingContext → Prop where
  | intro {context : ParsingContext}
      (generics : ∀ name node, (name, node) ∈ context.generics → node.WellFormed)
      (imported : ∀ name body inner, (name, body, inner) ∈ context.importedAliases →
        WellFormed inner) : WellFormed context

theorem ParsingContext.wellFormed_declaring (qualified : String) :
    (ParsingContext.declaring qualified).WellFormed :=
  .intro (fun _ _ nothing => nomatch nothing) fun _ _ _ nothing => nomatch nothing

/-- What is read in surroundings with well-formed types is well formed. -/
def TypeReader.GivesWellFormed (types : TypeReader) : Prop :=
  ∀ site : Site, site.context.WellFormed → Gives Node.WellFormed (types site)

/-- A rule gives well-formed nodes when the types it reads are. -/
def Rule.GivesWellFormed (rule : Rule) : Prop :=
  ∀ (types : TypeReader) (site : Site), types.GivesWellFormed → site.context.WellFormed →
    Gives Node.WellFormed (rule.read types site)

namespace TypeReader.GivesWellFormed

variable {types : TypeReader} (wellFormed : types.GivesWellFormed)
include wellFormed

theorem readText {site : Site} (context : site.context.WellFormed) {text : String} {node : Node}
    (success : types.readText site text = .ok node) : node.WellFormed := by
  have complete : Gives Node.WellFormed (types.complete site) := by
    refine (wellFormed site context).bind fun found here => .after _ fun cursor => ?_
    split
    · exact .pure here
    · exact .fail _
  unfold TypeReader.readText at success
  split at success
  · cases success
  next cursor _ =>
  split at success
  next found after run =>
    cases success
    exact complete run
  · cases success

theorem readDeclared {site : Site} {expansion : Expansion} {context : ParsingContext}
    (inner : context.WellFormed) {text : String} {node : Node}
    (success : types.readDeclared site expansion context text = .ok node) :
    node.WellFormed := by
  have read : types.readText { site with context, expanding := expansion :: site.expanding } text =
      .ok node := success
  exact wellFormed.readText inner read

end TypeReader.GivesWellFormed

namespace Rule

variable {types : TypeReader} {site : Site}

/-! ## Leaves -/

theorem wellFormed_boundedInt (low high : Int64) : (boundedInt low high).WellFormed :=
  Node.wellFormed_constrained (Node.wellFormed_builtIn _) _

/-- A union of types without parts is well formed. -/
theorem wellFormed_union_builtIn (kinds : List BuiltIn) (several : 2 ≤ kinds.length) :
    (Node.union (kinds.map .builtIn) none).WellFormed := by
  refine .intro ⟨by simpa using several, ?_, fun _ absurd => nomatch absurd⟩ ?_
  · intro inner member
    obtain ⟨kind, _, absurd⟩ := List.mem_map.mp member
    cases absurd
  · intro child member
    obtain ⟨kind, _, rfl⟩ := List.mem_map.mp member
    exact Node.wellFormed_builtIn kind

theorem wellFormed_keywordType? {word : String} {node : Node}
    (known : keywordType? word = some node) : node.WellFormed := by
  unfold keywordType? at known
  split at known
  all_goals cases known
  all_goals first
    | exact Node.wellFormed_builtIn _
    | exact wellFormed_boundedInt _ _
    | exact Node.wellFormed_constrained (Node.wellFormed_builtIn _) _
    | exact wellFormed_union_builtIn [.int, .float, .bool, .string] (by decide)
    | exact wellFormed_union_builtIn [.int, .float] (by decide)

theorem givesWellFormed_keyword : keyword.GivesWellFormed := by
  intro types site _ _
  refine .after _ fun lexeme => .after _ fun word => ?_
  cases known : keywordType? word with
  | some node => exact .pure (wellFormed_keywordType? known)
  | none => exact .failAt _ _

theorem givesWellFormed_int : int.GivesWellFormed := by
  intro types site _ _
  refine .after _ fun _ => .after _ fun bounded => ?_
  cases bounded with
  | false => exact .pure (Node.wellFormed_builtIn _)
  | true =>
      refine .after _ fun _ => .after _ fun low => .after _ fun _ => .after _ fun high =>
        .after _ fun _ => ?_
      split
      · exact .failAt _ _
      · exact .pure (wellFormed_boundedInt low high)

theorem givesWellFormed_literal : literal.GivesWellFormed := by
  intro types site _ _
  refine .after _ fun lexeme => ?_
  cases literalOf? lexeme.token with
  | some value => exact .pure (Node.wellFormed_literal value)
  | none => exact .failAt _ _

/-! ## Lists, tuples and structs -/

section

variable (reads : types.GivesWellFormed) (context : site.context.WellFormed)
include reads context

theorem gives_typeArguments (isList : Bool) :
    Gives Node.WellFormed (typeArguments types site isList) := by
  refine .after _ fun _ => (reads site context).bind fun first here => .after _ fun two => ?_
  cases two with
  | false => exact .after _ fun _ => .pure (Node.wellFormed_list here)
  | true =>
      refine (reads site context).bind fun value below => .after _ fun _ => ?_
      cases keyed : keyedType isList first value with
      | error cause => exact .failAt _ _
      | ok node =>
          refine .pure ?_
          unfold keyedType at keyed
          split at keyed
          · split at keyed
            · cases keyed
            · cases keyed
              exact Node.wellFormed_record below
          · cases keyed
            exact Node.wellFormed_list below
          · cases keyed

theorem gives_tupleElements (turns position : Nat) :
    Gives (∀ element ∈ ·, Node.WellFormed element) (tupleElements types site turns position) := by
  induction turns generalizing position with
  | zero => exact .pure fun _ nothing => nomatch nothing
  | succ turns ih =>
      refine .after _ fun cursor => ?_
      split
      · exact .pure fun _ nothing => nomatch nothing
      · refine .after _ fun _ => (reads site context).bind fun element here => ?_
        refine .after _ fun more => ?_
        cases more with
        | false => exact .pure (List.forall_mem_singleton.mpr here)
        | true =>
            refine (ih _).bind fun others later => ?_
            exact .pure (List.forall_mem_cons.mpr ⟨here, later⟩)

theorem gives_tuple : Gives Node.WellFormed (tuple types site) := by
  refine .after _ fun _ => .after _ fun turns => ?_
  refine (gives_tupleElements reads context turns 0).bind fun elements each => ?_
  exact .after _ fun _ => .located _ fun node built => Node.wellFormed_of_tupleOf each built

theorem gives_structProperties (turns : Nat) (earlier : List (Property Node)) :
    Gives (∀ property ∈ ·, Node.WellFormed property.node)
      (structProperties types site turns earlier) := by
  induction turns generalizing earlier with
  | zero => exact .pure fun _ nothing => nomatch nothing
  | succ turns ih =>
      refine .after _ fun cursor => ?_
      split
      · exact .pure fun _ nothing => nomatch nothing
      · refine .after _ fun keyLexeme => ?_
        cases propertyName? keyLexeme.token with
        | none => exact .fail _
        | some name =>
            refine .after _ fun _ => .after _ fun optional => .after _ fun _ => ?_
            refine (reads site context).bind fun node here => ?_
            split
            · exact .failAt _ _
            · refine .after _ fun more => ?_
              cases more with
              | false => exact .pure (List.forall_mem_singleton.mpr here)
              | true =>
                  refine (ih _).bind fun others later => ?_
                  exact .pure (List.forall_mem_cons.mpr ⟨here, later⟩)

end

theorem givesWellFormed_arrayLike : arrayLike.GivesWellFormed := by
  intro types site reads context
  refine .after _ fun word => .after _ fun cursor => .after _ fun angle => ?_
  dsimp only
  have constrained (node : Node) (here : node.WellFormed) :
      Gives Node.WellFormed (if word == "non-empty-array" || word == "non-empty-list" then
        pure (.constrained node [.nonEmpty]) else pure node) := by
    split
    · exact .pure (Node.wellFormed_constrained here _)
    · exact .pure here
  split
  · exact (gives_typeArguments reads context _).bind constrained
  · split
    · exact (gives_tuple reads context).bind constrained
    · exact constrained _ (Node.wellFormed_list (Node.wellFormed_builtIn _))

theorem givesWellFormed_struct : struct.GivesWellFormed := by
  intro types site reads context
  refine .after _ fun _ => .after _ fun word => .after _ fun _ => .after _ fun turns => ?_
  refine (gives_structProperties reads context turns []).bind fun properties each => ?_
  exact .after _ fun _ => .located _ fun node built => Node.wellFormed_of_structOf each built

/-! ## Names -/

/-- The literals that are found make a literal or a union of literals. -/
theorem gives_oneOf (lexeme : Lexeme) (pattern : String) (values : List Literal) :
    Gives Node.WellFormed (oneOf lexeme pattern values) := by
  unfold oneOf
  split
  · exact .failAt _ _
  · exact .pure (Node.wellFormed_literal _)
  · refine .located _ fun node built => Node.wellFormed_of_unionOf ?_ ?_ built
    · intro member among
      obtain ⟨value, _, rfl⟩ := List.mem_map.mp among
      exact Node.wellFormed_literal value
    · intro inner among
      obtain ⟨value, _, absurd⟩ := List.mem_map.mp among
      cases absurd

theorem gives_wildcard (classLexeme constLexeme : Lexeme) (pattern : String) (start : List Char)
    (candidates : List String) :
    Gives Node.WellFormed (wildcard site classLexeme constLexeme pattern start candidates) := by
  induction candidates with
  | nil => exact .failAt _ _
  | cons candidate rest ih =>
      refine .after _ fun values => ?_
      split
      · exact ih
      · exact gives_oneOf _ _ _

theorem gives_constant (classLexeme constLexeme : Lexeme) (pattern name : String)
    (candidates : List String) :
    Gives Node.WellFormed (constant site classLexeme constLexeme pattern name candidates) := by
  induction candidates with
  | nil => exact .failAt _ _
  | cons candidate rest ih =>
      simp only [constant]
      split
      · exact .pure (Node.wellFormed_literal _)
      · split
        · exact .after _ fun _ => .pure (Node.wellFormed_literal _)
        · split
          · exact .failAt _ _
          · exact ih

theorem givesWellFormed_classConstant : classConstant.GivesWellFormed := by
  intro types site _ _
  refine .after _ fun _ => .after _ fun className => .after _ fun _ => .after _ fun _ =>
    .after _ fun name => ?_
  dsimp only
  split
  · exact gives_wildcard _ _ _ _ _
  · exact gives_constant _ _ _ _ _

theorem givesWellFormed_enumeration : enumeration.GivesWellFormed := by
  intro types site _ _
  refine .after _ fun _ => .after _ fun word => ?_
  dsimp only
  split
  · exact .pure (Node.wellFormed_enumeration _)
  · exact .failAt _ _

theorem givesWellFormed_dateTime : dateTime.GivesWellFormed := by
  intro types site _ _
  refine .after _ fun _ => .after _ fun word => ?_
  dsimp only
  split
  · exact .pure (Node.wellFormed_dateTime _ _)
  · exact .failAt _ _

/-- An alias is declared in the context it is used in, in one that is imported with it, or in one
without generic parameters. -/
theorem wellFormed_alias? (context : site.context.WellFormed) {word : String}
    {declaration : AliasDeclaration} (found : alias? site word = some declaration) :
    declaration.context.WellFormed := by
  unfold alias? at found
  split at found
  · cases found
    exact context
  · split at found
    next body inner imported =>
      cases found
      cases context with
      | intro _ contexts => exact contexts _ _ _ (Dict.mem_of_get?_eq_some imported)
    · obtain ⟨name, _, declared⟩ := List.exists_of_findSome?_eq_some found
      obtain ⟨body, _, rfl⟩ := Option.map_eq_some_iff.mp declared
      exact ParsingContext.wellFormed_declaring name

theorem gives_expandAlias (reads : types.GivesWellFormed) (lexeme : Lexeme)
    {declaration : AliasDeclaration} (context : declaration.context.WellFormed) :
    Gives Node.WellFormed (expandAlias types site lexeme declaration) := by
  unfold expandAlias
  dsimp only
  split
  · exact .failAt _ _
  · refine .lift fun node success => ?_
    cases inner : types.readDeclared site (.alias declaration.name) declaration.context
        declaration.body with
    | error error =>
        rw [inner] at success
        cases success
    | ok found =>
        rw [inner] at success
        cases success
        exact reads.readDeclared context inner

theorem givesWellFormed_aliasName : aliasName.GivesWellFormed := by
  intro types site reads context
  refine .after _ fun _ => .after _ fun word => ?_
  cases bound : Dict.get? site.context.generics word with
  | some node =>
      refine .pure ?_
      cases context with
      | intro generics _ => exact generics _ _ (Dict.mem_of_get?_eq_some bound)
  | none =>
      cases declared : alias? site word with
      | some declaration => exact gives_expandAlias reads _ (wellFormed_alias? context declared)
      | none => exact .failAt _ _

theorem givesWellFormed_selection : selection.GivesWellFormed := by
  intro types site reads context
  refine .after _ fun _ => .after _ fun utility => .after _ fun _ => .after _ fun _ => ?_
  refine (reads site context).bind fun target here => .after _ fun _ => .after _ fun _ => ?_
  refine .after _ fun keysNode => .after _ fun _ => ?_
  split
  · exact .failAt _ _
  · split
    · exact .failAt _ _
    · split
      · exact .failAt _ _
      · exact .located _ fun node success => Node.wellFormed_of_selectProperties here success

/-! ## Host classes -/

namespace ClassExpansion

variable {expansion : ClassExpansion} (reads : expansion.types.GivesWellFormed)
include reads

theorem wellFormed_fieldType {decl : FieldDecl} {node : Node}
    (success : expansion.fieldType decl = .ok node) : node.WellFormed := by
  unfold fieldType at success
  dsimp only at success
  split at success
  · cases success
  next found read =>
    cases success
    have here := reads.readDeclared (ParsingContext.wellFormed_declaring _) read
    split
    · exact here
    · exact Node.wellFormed_constrained here _

theorem wellFormed_parameterProperties {decls : List FieldDecl}
    {properties : List (Property Node)}
    (success : expansion.parameterProperties decls = .ok properties) :
    ∀ property ∈ properties, property.node.WellFormed := by
  induction decls generalizing properties with
  | nil =>
      cases success
      exact fun _ nothing => nomatch nothing
  | cons decl rest ih =>
      obtain ⟨node, first, success⟩ := Except.bind_eq_ok_iff.mp success
      obtain ⟨others, later, same⟩ := Except.bind_eq_ok_iff.mp success
      cases same
      exact List.forall_mem_cons.mpr ⟨wellFormed_fieldType reads first, ih later⟩

omit reads in
/-- Promoting a property changes its direction only. -/
theorem map_node_promote (name : String) (properties : List (Property Node)) :
    (promote name properties).map Property.node = properties.map Property.node := by
  induction properties with
  | nil => rfl
  | cons property rest ih =>
      unfold promote
      split
      · rfl
      · rw [List.map_cons, List.map_cons, ih]

theorem wellFormed_addFields {fail : SyntaxError.Cause → SyntaxError} {direction : Direction}
    {decls : List FieldDecl} {properties result : List (Property Node)}
    (before : ∀ node ∈ properties.map Property.node, node.WellFormed)
    (success : expansion.addFields fail direction properties decls = .ok result) :
    ∀ node ∈ result.map Property.node, node.WellFormed := by
  induction decls generalizing properties with
  | nil =>
      cases success
      exact before
  | cons decl rest ih =>
      unfold addFields at success
      dsimp only at success
      split at success
      · refine ih ?_ success
        rw [map_node_promote]
        exact before
      · split at success
        · cases success
        · split at success
          · cases success
          · split at success
            · cases success
            · split at success
              · cases success
              next node read =>
                refine ih (fun other member => ?_) success
                rw [List.map_append, List.mem_append] at member
                rcases member with earlier | last
                · exact before other earlier
                · obtain rfl := List.mem_singleton.mp last
                  exact wellFormed_fieldType reads read

theorem gives_objectType (parameters : Option (List FieldDecl)) (fields : List FieldDecl) :
    Gives Node.WellFormed (expansion.objectType parameters fields) := by
  refine .after _ fun cursor => ?_
  dsimp only
  refine Gives.bind (.lift fun inputs => wellFormed_parameterProperties reads) fun inputs each => ?_
  have each' : ∀ node ∈ inputs.map Property.node, node.WellFormed := List.forall_mem_map.mpr each
  refine Gives.bind (.lift fun properties => wellFormed_addFields reads each')
    fun properties both => ?_
  split
  next shape built =>
    have struct := Node.wellFormed_of_structOf (List.forall_mem_map.mp both) built
    exact .located _ fun node cast => Node.wellFormed_of_castTo struct cast
  · exact .throw _

theorem gives_collectionType (item : String) :
    Gives Node.WellFormed (expansion.collectionType item) := by
  refine Gives.bind (.lift fun inner => wellFormed_fieldType reads) fun inner here => ?_
  exact .located _ fun node cast => Node.wellFormed_of_castTo (Node.wellFormed_list here) cast

end ClassExpansion

theorem givesWellFormed_classType : classType.GivesWellFormed := by
  intro types site reads _
  refine .after _ fun lexeme => .after _ fun word => ?_
  dsimp only
  split
  · exact .failAt _ _
  next className hostClass _ =>
  split
  · exact .failAt _ _
  · cases hostClass.shape with
    | object parameters fields => exact ClassExpansion.gives_objectType reads parameters fields
    | collection item => exact ClassExpansion.gives_collectionType reads item

/-- Every rule of the language gives well-formed nodes. -/
theorem givesWellFormed_of_mem_builtIn {rule : Rule} (member : rule ∈ builtIn) :
    rule.GivesWellFormed := by
  simp only [builtIn, List.mem_cons, List.not_mem_nil, or_false] at member
  rcases member with rfl | rfl | rfl | rfl | rfl | rfl | rfl | rfl | rfl | rfl | rfl
  · exact givesWellFormed_arrayLike
  · exact givesWellFormed_struct
  · exact givesWellFormed_keyword
  · exact givesWellFormed_int
  · exact givesWellFormed_literal
  · exact givesWellFormed_classConstant
  · exact givesWellFormed_enumeration
  · exact givesWellFormed_dateTime
  · exact givesWellFormed_aliasName
  · exact givesWellFormed_selection
  · exact givesWellFormed_classType

end Rule

/-! ## Types -/

namespace Parser

variable {primary : Parse Node}

theorem gives_listBrackets (turns : Nat) {node : Node} (here : node.WellFormed) :
    Gives Node.WellFormed (listBrackets turns node) := by
  induction turns generalizing node with
  | zero => exact .pure here
  | succ turns ih =>
      refine .after _ fun eaten => ?_
      cases eaten with
      | true => exact ih (Node.wellFormed_list here)
      | false => exact .pure here

theorem gives_postfixType (reads : Gives Node.WellFormed primary) :
    Gives Node.WellFormed (postfixType primary) :=
  reads.bind fun _ here => .after _ fun turns => gives_listBrackets turns here

theorem gives_intersectionType (reads : Gives Node.WellFormed primary) :
    Gives Node.WellFormed (intersectionType primary) := by
  refine .after _ fun lexeme => (gives_postfixType reads).bind fun first here => ?_
  refine .after _ fun turns => ((gives_postfixType reads).following .ampersand turns).bind ?_
  intro others each
  split
  · exact .pure here
  · refine .located _ fun node built => ?_
    exact Node.wellFormed_of_intersectionOf (List.forall_mem_cons.mpr ⟨here, each⟩) built

/-- The members that stand in the place of a well-formed one are well formed, and none of them is a
union without discriminator. -/
theorem wellFormed_flattened {node : Node} (wellFormed : node.WellFormed) :
    (∀ member ∈ flattened node, member.WellFormed) ∧
      ∀ inner, Node.union inner none ∉ flattened node := by
  unfold flattened
  split
  next members =>
    exact ⟨fun member among => wellFormed.of_mem_children among, wellFormed.here.2.1⟩
  next other plain =>
    refine ⟨List.forall_mem_singleton.mpr wellFormed, fun inner member => ?_⟩
    exact plain inner (List.mem_singleton.mp member).symm

theorem wellFormed_of_unionNode {members : List Node} {node : Node}
    (each : ∀ member ∈ members, member.WellFormed)
    (flat : ∀ inner, Node.union inner none ∉ members)
    (built : unionNode members = .ok node) : node.WellFormed := by
  unfold unionNode at built
  split at built
  next discriminator inferred =>
    exact Node.wellFormed_of_discriminatedUnionOf each flat
      (Discriminator.separates_of_infer? inferred) built
  · exact Node.wellFormed_of_unionOf each flat built

theorem gives_unionType (reads : Gives Node.WellFormed primary) :
    Gives Node.WellFormed (unionType primary) := by
  refine .after _ fun lexeme => .after _ fun nullable => ?_
  refine (gives_intersectionType reads).bind fun first here => .after _ fun turns => ?_
  refine ((gives_intersectionType reads).following .pipe turns).bind fun others each => ?_
  have members : ∀ member ∈ (if nullable then [Node.builtIn .null] else []) ++ first :: others,
      member.WellFormed := by
    intro member among
    rcases List.mem_append.mp among with null | rest
    · split at null
      · obtain rfl := List.mem_singleton.mp null
        exact Node.wellFormed_builtIn _
      · cases null
    · exact List.forall_mem_cons.mpr ⟨here, each⟩ member rest
  dsimp only
  generalize (if nullable then [Node.builtIn .null] else []) ++ first :: others = all at members
  split
  · exact .pure (members _ List.mem_cons_self)
  · refine .located _ fun node built => wellFormed_of_unionNode ?_ ?_ built
    · intro member among
      obtain ⟨origin, inside, from_⟩ := List.mem_flatMap.mp among
      exact (wellFormed_flattened (members origin inside)).1 member from_
    · intro inner among
      obtain ⟨origin, inside, from_⟩ := List.mem_flatMap.mp among
      exact (wellFormed_flattened (members origin inside)).2 inner from_

variable {parser : Parser} {types : TypeReader}

theorem gives_primaryBody {rules : List Rule} (each : ∀ rule ∈ rules, rule.GivesWellFormed)
    (reads : types.GivesWellFormed) {site : Site} (context : site.context.WellFormed) :
    Gives Node.WellFormed (primaryBody rules types site) := by
  refine .after _ fun parenthesized => ?_
  cases parenthesized with
  | true => exact (reads site context).bind fun node here => .after _ fun _ => .pure here
  | false =>
      refine .after _ fun cursor => ?_
      split
      next rule found =>
        exact each rule (List.mem_of_find?_eq_some found) types site reads context
      · split <;> exact .fail _

/-- With any number of levels left, a parser whose rules give well-formed nodes does so itself. -/
theorem givesWellFormed_typeWithin (each : ∀ rule ∈ parser.rules, rule.GivesWellFormed)
    (levels : Nat) : (parser.typeWithin levels).GivesWellFormed := by
  induction levels with
  | zero => exact fun _ _ => gives_unionType (.fail _)
  | succ levels ih => exact fun _ context => gives_unionType (gives_primaryBody each ih context)

/-- Every type that is read with the rules of the language, in a context that binds generic
parameters to well-formed nodes, is well formed. -/
theorem wellFormed_of_parseIn (registry : TypeRegistry) (maxDepth : Nat)
    {context : ParsingContext} (bound : context.WellFormed) {text : String} {node : Node}
    (success : Parser.parseIn { registry, maxDepth } context text = .ok node) :
    node.WellFormed := by
  have rules : ∀ rule ∈ Parser.rules { registry, maxDepth }, rule.GivesWellFormed := by
    intro rule member
    rw [Parser.rules, List.append_nil] at member
    exact Rule.givesWellFormed_of_mem_builtIn member
  exact (givesWellFormed_typeWithin rules maxDepth).readText bound success

/-- A list of alternatives that are told apart by their tags. -/
def taggedList (payload : Node) : Node :=
  .list <| .union
    [.struct .array [Node.required "tag" (.literal (.int 1)), Node.required "of" payload],
      .struct .array [Node.required "tag" (.literal (.int 2))]]
    (some { field := "tag", arms := [("1", 0), ("2", 1)] })

/-- Tagged alternatives with a type parameter. -/
theorem wellFormed_of_taggedList :
    let context : ParsingContext := { generics := [("T", .builtIn .int)] }
    context.WellFormed ∧
      ∃ node,
        Parser.parseIn { registry := {} } context
            "list<array\x7btag: 1, of: T\x7d | array\x7btag: 2\x7d>" = .ok node ∧
          node.isEqual (taggedList (.builtIn .int)) = true ∧ node.WellFormed := by
  intro context
  have bound : context.WellFormed := by
    refine .intro (fun name node member => ?_) fun _ _ _ nothing => nomatch nothing
    obtain ⟨rfl, rfl⟩ := Prod.mk.inj (List.mem_singleton.mp member)
    exact Node.wellFormed_builtIn _
  have read : (Parser.parseIn { registry := {} } { generics := [("T", .builtIn .int)] }
      "list<array\x7btag: 1, of: T\x7d | array\x7btag: 2\x7d>").toOption.any
        (·.isEqual (taggedList (.builtIn .int))) = true := by
    decide +kernel
  obtain ⟨node, success, equal⟩ := (Option.any_eq_true _ _).mp read
  have parsed := Except.toOption_eq_some_iff.mp success
  exact ⟨bound, node, parsed, equal, wellFormed_of_parseIn {} 64 bound parsed⟩

end Parser

end Schemata
