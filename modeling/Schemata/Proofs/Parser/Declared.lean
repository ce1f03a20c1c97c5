import Schemata.Parser.Grammar
import Schemata.Proofs.Codec.Faultless
import Schemata.Proofs.Parser.Failures

/-!
# Parsed nodes name what is declared

Where constants name existing cases and there are no host classes, every rule of the language gives
nodes without references and casts, whose enums and moments are registered, and none of them ever
meets a constant with an unknown case.  So does a parser with these rules, in the texts of aliases
as well.
-/

namespace Schemata

/-- A constant that is the case of an enum names one that exists. -/
def Literal.IsKnownIn (registry : TypeRegistry) : Literal → Prop
  | .enumCase enumeration case => registry.hasCase enumeration case = true
  | _ => True

/-- All that is registered can be looked up: the constants name existing cases, and there are no
host classes. -/
structure TypeRegistry.IsClosed (registry : TypeRegistry) : Prop where
  constants : ∀ entry ∈ registry.constants, entry.2.IsKnownIn registry
  classless : ∀ name, registry.object? name = none

/-- Neither generic parameters nor imported aliases stand in the context. -/
structure ParsingContext.IsBare (context : ParsingContext) : Prop where
  generics : context.generics = []
  imported : context.importedAliases = []

theorem ParsingContext.isBare_declaring (qualified : String) :
    (ParsingContext.declaring qualified).IsBare :=
  ⟨rfl, rfl⟩

/-- The surroundings bring no names besides those of the registry and local aliases. -/
structure Site.IsPlain (registry : TypeRegistry) (site : Site) : Prop where
  registry_eq : site.registry = registry
  context : site.context.IsBare

/-! ## Nodes -/

/-- The node has neither references nor casts, its enums are registered, and its moments have the
registered formats. -/
def Node.IsDeclaredIn (registry : TypeRegistry) : Node → Prop :=
  Everywhere <| Codec.SettledIn registry fun className format =>
    registry.dateTime? className = some format

namespace Node

open Parse

variable {registry : TypeRegistry} {inner : Node}

theorem isDeclaredIn_list (item : inner.IsDeclaredIn registry) :
    (Node.list inner).IsDeclaredIn registry :=
  .intro trivial fun _ member => List.mem_singleton.mp member ▸ item

theorem isDeclaredIn_record (item : inner.IsDeclaredIn registry) :
    (Node.record inner).IsDeclaredIn registry :=
  .intro trivial fun _ member => List.mem_singleton.mp member ▸ item

theorem isDeclaredIn_constrained (declared : inner.IsDeclaredIn registry)
    (validators : List Validator) : (Node.constrained inner validators).IsDeclaredIn registry :=
  .intro trivial fun _ member => List.mem_singleton.mp member ▸ declared

theorem isDeclaredIn_builtIn (kind : BuiltIn) : (Node.builtIn kind).IsDeclaredIn registry :=
  .leaf trivial rfl

theorem isDeclaredIn_literal (value : Literal) : (Node.literal value).IsDeclaredIn registry :=
  .leaf trivial rfl

theorem builds_tupleOf {elements : List Node}
    (each : ∀ element ∈ elements, element.IsDeclaredIn registry) :
    Builds (IsDeclaredIn registry) (tupleOf elements) := by
  unfold tupleOf
  split
  · rfl
  · exact .intro trivial each

theorem builds_structOf {kind : StructKind} {properties : List (Property Node)}
    (each : ∀ property ∈ properties, property.node.IsDeclaredIn registry) :
    Builds (IsDeclaredIn registry) (structOf kind properties) := by
  unfold structOf
  split
  · rfl
  · split
    · rfl
    · exact .intro trivial (List.forall_mem_map.mpr each)

theorem builds_unionOf {members : List Node}
    (each : ∀ member ∈ members, member.IsDeclaredIn registry) :
    Builds (IsDeclaredIn registry) (unionOf members) := by
  unfold unionOf
  split
  · rfl
  · exact .intro trivial each

theorem builds_discriminatedUnionOf {members : List Node} (discriminator : Discriminator)
    (each : ∀ member ∈ members, member.IsDeclaredIn registry) :
    Builds (IsDeclaredIn registry) (discriminatedUnionOf members discriminator) := by
  unfold discriminatedUnionOf
  split
  · rfl
  · split
    · rfl
    · exact .intro trivial each

theorem builds_sharedKind (kind : Option StructKind) (members : List Node) :
    Builds (fun _ => True) (sharedKind kind members) := by
  induction members generalizing kind with
  | nil => trivial
  | cons member rest ih =>
      unfold sharedKind
      split
      · split
        · rfl
        · exact ih _
      · split
        · exact ih _
        · rfl

theorem builds_intersectionOf {members : List Node}
    (each : ∀ member ∈ members, member.IsDeclaredIn registry) :
    Builds (IsDeclaredIn registry) (intersectionOf members) := by
  unfold intersectionOf
  split
  · rfl
  · have shared := builds_sharedKind none members
    split
    next error stopped =>
      rw [stopped] at shared
      exact shared
    · rfl
    · exact .intro trivial each

theorem builds_selectProperties {keys : List String} {keep : Bool}
    (declared : inner.IsDeclaredIn registry) :
    Builds (IsDeclaredIn registry) (inner.selectProperties keys keep) := by
  induction inner using induction_on_children with
  | step inner ih =>
      cases inner with
      | named below name =>
          have part := declared.of_mem_children (List.mem_singleton_self _)
          refine (ih below (List.mem_singleton_self _) part).map fun selected here => ?_
          exact .intro trivial fun _ member => List.mem_singleton.mp member ▸ here
      | cast below target strategy => exact declared.here.elim
      | struct kind properties =>
          refine builds_structOf fun property member => ?_
          exact declared.of_mem_children (List.mem_map_of_mem (List.mem_filter.mp member).1)
      | _ => exact rfl

end Node

/-! ## Rules -/

/-- Types that are read in plain surroundings end well, and name what is declared. -/
def TypeReader.StaysWithin (registry : TypeRegistry) (types : TypeReader) : Prop :=
  ∀ site : Site, site.IsPlain registry → (types site).EndsWell (Node.IsDeclaredIn registry)

/-- A rule ends well when the types it reads do. -/
def Rule.StaysWithin (registry : TypeRegistry) (rule : Rule) : Prop :=
  ∀ (types : TypeReader) (site : Site), types.StaysWithin registry → site.IsPlain registry →
    (rule.read types site).EndsWell (Node.IsDeclaredIn registry)

open Parse

variable {registry : TypeRegistry}

namespace TypeReader.StaysWithin

variable {types : TypeReader} (reads : types.StaysWithin registry) {site : Site}
include reads

theorem readText (plain : site.IsPlain registry) (text : String) :
    Builds (Node.IsDeclaredIn registry) (types.readText site text) := by
  have complete : (types.complete site).EndsWell (Node.IsDeclaredIn registry) := by
    refine (reads site plain).bind fun found here => .andThen .get fun cursor => ?_
    split
    · exact .pure here
    · exact .fail rfl
  have tokens := Builds.ofInput text
  unfold TypeReader.readText
  cases opened : Cursor.ofInput text with
  | error error =>
      rw [opened] at tokens
      exact tokens
  | ok cursor =>
      have outcome := complete cursor
      dsimp only [EStateM.run]
      cases run : types.complete site cursor with
      | ok node after =>
          rw [run] at outcome
          exact outcome
      | error error after =>
          rw [run] at outcome
          exact outcome

theorem readDeclared (plain : site.IsPlain registry) (expansion : Expansion)
    {context : ParsingContext} (bare : context.IsBare) (text : String) :
    Builds (Node.IsDeclaredIn registry) (types.readDeclared site expansion context text) := by
  have inner : Site.IsPlain registry
      { site with context, expanding := expansion :: site.expanding } :=
    ⟨plain.registry_eq, bare⟩
  exact reads.readText inner text

end TypeReader.StaysWithin

namespace Rule

variable {types : TypeReader} {site : Site}

/-! ### Leaves -/

theorem isDeclaredIn_boundedInt (low high : Int64) :
    (boundedInt low high).IsDeclaredIn registry :=
  Node.isDeclaredIn_constrained (Node.isDeclaredIn_builtIn _) _

theorem isDeclaredIn_union_builtIn (kinds : List BuiltIn) :
    (Node.union (kinds.map .builtIn) none).IsDeclaredIn registry := by
  refine .intro trivial fun child member => ?_
  obtain ⟨kind, _, rfl⟩ := List.mem_map.mp member
  exact Node.isDeclaredIn_builtIn kind

theorem isDeclaredIn_keywordType? {word : String} {node : Node}
    (known : keywordType? word = some node) : node.IsDeclaredIn registry := by
  unfold keywordType? at known
  split at known
  all_goals cases known
  all_goals first
    | exact Node.isDeclaredIn_builtIn _
    | exact isDeclaredIn_boundedInt _ _
    | exact Node.isDeclaredIn_constrained (Node.isDeclaredIn_builtIn _) _
    | exact isDeclaredIn_union_builtIn [.int, .float, .bool, .string]
    | exact isDeclaredIn_union_builtIn [.int, .float]

theorem staysWithin_keyword : keyword.StaysWithin registry := by
  intro types site _ _
  refine .andThen .current fun lexeme => .andThen .takeWord fun word => ?_
  cases known : keywordType? word with
  | some node => exact .pure (isDeclaredIn_keywordType? known)
  | none => exact .failAt rfl

theorem endsWell_intBound : EndsWell (fun _ => True) intBound := by
  refine .andThen .get fun cursor => ?_
  dsimp only
  split
  · exact .andThen .advance fun _ => .pure trivial
  · exact .andThen .advance fun _ => .pure trivial
  · exact .andThen .advance fun _ => .pure trivial
  · exact .fail rfl

theorem staysWithin_int : int.StaysWithin registry := by
  intro types site _ _
  refine .andThen .takeWord fun _ => .andThen (.eatMark _) fun bounded => ?_
  cases bounded with
  | false => exact .pure (Node.isDeclaredIn_builtIn _)
  | true =>
      refine .andThen .current fun _ => .andThen endsWell_intBound fun low =>
        .andThen (.expectMark _) fun _ => .andThen endsWell_intBound fun high =>
          .andThen (.expectMark _) fun _ => ?_
      split
      · exact .failAt rfl
      · exact .pure (isDeclaredIn_boundedInt low high)

theorem staysWithin_literal : literal.StaysWithin registry := by
  intro types site _ _
  refine .andThen .advance fun lexeme => ?_
  cases literalOf? lexeme.token with
  | some value => exact .pure (Node.isDeclaredIn_literal value)
  | none => exact .failAt rfl

/-! ### Lists, tuples and structs -/

section

variable (reads : types.StaysWithin registry) (plain : site.IsPlain registry)
include reads plain

theorem endsWell_typeArguments (isList : Bool) :
    (typeArguments types site isList).EndsWell (Node.IsDeclaredIn registry) := by
  refine .andThen .current fun lexeme => (reads site plain).bind fun first here => ?_
  refine .andThen (.eatMark _) fun two => ?_
  cases two with
  | false => exact .andThen (.expectMark _) fun _ => .pure (Node.isDeclaredIn_list here)
  | true =>
      refine (reads site plain).bind fun value below => .andThen (.expectMark _) fun _ => ?_
      cases keyed : keyedType isList first value with
      | error cause =>
          refine .failAt ?_
          unfold keyedType at keyed
          split at keyed
          · split at keyed <;> cases keyed
            rfl
          · cases keyed
          · cases keyed
            split <;> rfl
      | ok node =>
          refine .pure ?_
          unfold keyedType at keyed
          split at keyed
          · split at keyed <;> cases keyed
            exact Node.isDeclaredIn_record below
          · cases keyed
            exact Node.isDeclaredIn_list below
          · cases keyed

omit reads plain in
theorem endsWell_tupleKey (position : Nat) : EndsWell (fun _ => True) (tupleKey position) := by
  refine .andThen .get fun cursor => ?_
  split
  · split
    · split
      · exact .andThen .advance fun _ => .andThen .advance fun _ => .pure trivial
      · exact .fail rfl
    · exact .pure trivial
  · exact .pure trivial

theorem endsWell_tupleElements (turns position : Nat) :
    (tupleElements types site turns position).EndsWell
      (∀ element ∈ ·, element.IsDeclaredIn registry) := by
  induction turns generalizing position with
  | zero => exact .pure fun _ nothing => nomatch nothing
  | succ turns ih =>
      refine .andThen .get fun cursor => ?_
      split
      · exact .pure fun _ nothing => nomatch nothing
      · refine .andThen (endsWell_tupleKey position) fun _ => ?_
        refine (reads site plain).bind fun element here => .andThen (.eatMark _) fun more => ?_
        cases more with
        | false => exact .pure (List.forall_mem_singleton.mpr here)
        | true =>
            refine (ih _).bind fun others later => ?_
            exact .pure (List.forall_mem_cons.mpr ⟨here, later⟩)

theorem endsWell_tuple : (tuple types site).EndsWell (Node.IsDeclaredIn registry) := by
  refine .andThen (.expectMark _) fun opening => .andThen .turns fun turns => ?_
  refine (endsWell_tupleElements reads plain turns 0).bind fun elements each => ?_
  exact .andThen (.expectMark _) fun _ => .located (Node.builds_tupleOf each)

theorem endsWell_structProperties (turns : Nat) (earlier : List (Property Node)) :
    (structProperties types site turns earlier).EndsWell
      (∀ property ∈ ·, property.node.IsDeclaredIn registry) := by
  induction turns generalizing earlier with
  | zero => exact .pure fun _ nothing => nomatch nothing
  | succ turns ih =>
      refine .andThen .get fun cursor => ?_
      split
      · exact .pure fun _ nothing => nomatch nothing
      · refine .andThen .current fun keyLexeme => ?_
        cases propertyName? keyLexeme.token with
        | none => exact .fail rfl
        | some name =>
            refine .andThen .advance fun _ => .andThen (.eatMark _) fun optional =>
              .andThen (.expectMark _) fun _ => (reads site plain).bind fun node here => ?_
            split
            · exact .failAt rfl
            · refine .andThen (.eatMark _) fun more => ?_
              cases more with
              | false => exact .pure (List.forall_mem_singleton.mpr here)
              | true =>
                  refine (ih _).bind fun others later => ?_
                  exact .pure (List.forall_mem_cons.mpr ⟨here, later⟩)

end

theorem staysWithin_arrayLike : arrayLike.StaysWithin registry := by
  intro types site reads plain
  have constrained (node : Node) (here : node.IsDeclaredIn registry) (word : String) :
      EndsWell (Node.IsDeclaredIn registry)
        (if word == "non-empty-array" || word == "non-empty-list" then
          pure (.constrained node [.nonEmpty]) else pure node) := by
    split
    · exact .pure (Node.isDeclaredIn_constrained here _)
    · exact .pure here
  refine .andThen .takeWord fun word => .andThen .get fun cursor =>
    .andThen (.eatMark _) fun angle => ?_
  dsimp only
  split
  · exact (endsWell_typeArguments reads plain _).bind fun node here => constrained node here word
  · split
    · exact (endsWell_tuple reads plain).bind fun node here => constrained node here word
    · exact constrained _ (Node.isDeclaredIn_list (Node.isDeclaredIn_builtIn _)) word

theorem staysWithin_struct : struct.StaysWithin registry := by
  intro types site reads plain
  refine .andThen .current fun _ => .andThen .takeWord fun word =>
    .andThen (.expectMark _) fun _ => .andThen .turns fun turns => ?_
  refine (endsWell_structProperties reads plain turns []).bind fun properties each => ?_
  exact .andThen (.expectMark _) fun _ => .located (Node.builds_structOf each)

/-! ### Names -/

theorem endsWell_checkCase (plain : site.IsPlain registry) (lexeme : Lexeme) {value : Literal}
    (known : value.IsKnownIn registry) :
    EndsWell (fun _ => True) (checkCase site lexeme value) := by
  cases value with
  | enumCase enumeration case =>
      have registered : site.registry.hasCase enumeration case = true :=
        plain.registry_eq ▸ known
      rw [checkCase, if_pos registered]
      exact .pure trivial
  | _ => exact .pure trivial

theorem endsWell_addConstants (plain : site.IsPlain registry) (lexeme : Lexeme)
    (values : List Literal) {entries : List (String × Literal)}
    (known : ∀ entry ∈ entries, entry.2.IsKnownIn registry) :
    EndsWell (fun _ => True) (addConstants site lexeme values entries) := by
  induction entries generalizing values with
  | nil => exact .pure trivial
  | cons entry rest ih =>
      obtain ⟨here, later⟩ := List.forall_mem_cons.mp known
      refine .andThen (endsWell_checkCase plain lexeme here) fun _ => ?_
      split
      · exact ih _ later
      · exact ih _ later

/-- The literals that are found make a literal or a union of literals. -/
theorem endsWell_oneOf (lexeme : Lexeme) (pattern : String) (values : List Literal) :
    (oneOf lexeme pattern values).EndsWell (Node.IsDeclaredIn registry) := by
  unfold oneOf
  split
  · exact .failAt rfl
  · exact .pure (Node.isDeclaredIn_literal _)
  · refine .located (Node.builds_unionOf fun member among => ?_)
    obtain ⟨value, _, rfl⟩ := List.mem_map.mp among
    exact Node.isDeclaredIn_literal value

section

variable (closed : registry.IsClosed)
include closed

theorem isKnownIn_of_mem_constantsFrom {className start : String} :
    ∀ entry ∈ registry.constantsFrom className start, entry.2.IsKnownIn registry := by
  intro entry member
  obtain ⟨found, among, rfl⟩ := List.mem_map.mp member
  have behind := (List.takeWhile_sublist _).subset among
  exact closed.constants found ((List.dropWhile_sublist _).subset behind)

theorem isKnownIn_of_constant? {className name : String} {value : Literal}
    (found : registry.constant? className name = some value) : value.IsKnownIn registry :=
  closed.constants _ (Dict.mem_of_get?_eq_some found)

theorem endsWell_wildcard (plain : site.IsPlain registry) (classLexeme constLexeme : Lexeme)
    (pattern : String) (start : List Char) (candidates : List String) :
    (wildcard site classLexeme constLexeme pattern start candidates).EndsWell
      (Node.IsDeclaredIn registry) := by
  induction candidates with
  | nil => exact .failAt rfl
  | cons candidate rest ih =>
      rw [wildcard, plain.registry_eq]
      refine .andThen (endsWell_addConstants plain _ _ (isKnownIn_of_mem_constantsFrom closed)) ?_
      intro values
      split
      · exact ih
      · exact endsWell_oneOf _ _ _

theorem endsWell_constant (plain : site.IsPlain registry) (classLexeme constLexeme : Lexeme)
    (pattern name : String) (candidates : List String) :
    (constant site classLexeme constLexeme pattern name candidates).EndsWell
      (Node.IsDeclaredIn registry) := by
  induction candidates with
  | nil => exact .failAt rfl
  | cons candidate rest ih =>
      rw [constant, plain.registry_eq]
      split
      · exact .pure (Node.isDeclaredIn_literal _)
      · split
        next value found =>
          refine .andThen (endsWell_checkCase plain _ (isKnownIn_of_constant? closed found)) ?_
          exact fun _ => .pure (Node.isDeclaredIn_literal _)
        · split
          · exact .failAt rfl
          · exact ih

theorem staysWithin_classConstant : classConstant.StaysWithin registry := by
  intro types site _ plain
  refine .andThen .current fun _ => .andThen .takeWord fun className =>
    .andThen (.expectMark _) fun _ => .andThen .current fun _ => .andThen .takeWord fun name => ?_
  dsimp only
  split
  · exact endsWell_wildcard closed plain _ _ _ _ _
  · exact endsWell_constant closed plain _ _ _ _ _

end

theorem staysWithin_enumeration : enumeration.StaysWithin registry := by
  intro types site _ plain
  refine .andThen .current fun _ => .andThen .takeWord fun word => ?_
  dsimp only
  split
  next name found =>
    have registered := List.find?_some found
    rw [plain.registry_eq] at registered
    exact .pure (.leaf registered rfl)
  · exact .failAt rfl

theorem staysWithin_dateTime : dateTime.StaysWithin registry := by
  intro types site _ plain
  refine .andThen .current fun _ => .andThen .takeWord fun word => ?_
  dsimp only
  split
  next name format found =>
    obtain ⟨candidate, _, known⟩ := List.exists_of_findSome?_eq_some found
    obtain ⟨_, registered, same⟩ := Option.map_eq_some_iff.mp known
    obtain ⟨rfl, rfl⟩ := Prod.mk.inj same
    rw [plain.registry_eq] at registered
    exact .pure (.leaf registered rfl)
  · exact .failAt rfl

/-- In a bare context, an alias is declared there, or in a bare context of its own. -/
theorem isBare_alias? (plain : site.IsPlain registry) {word : String}
    {declaration : AliasDeclaration} (found : alias? site word = some declaration) :
    declaration.context.IsBare := by
  unfold alias? at found
  split at found
  · cases found
    exact plain.context
  · rw [plain.context.imported, Dict.get?_nil] at found
    obtain ⟨name, _, declared⟩ := List.exists_of_findSome?_eq_some found
    obtain ⟨body, _, rfl⟩ := Option.map_eq_some_iff.mp declared
    exact ParsingContext.isBare_declaring name

theorem staysWithin_aliasName : aliasName.StaysWithin registry := by
  intro types site reads plain
  refine .andThen .current fun _ => .andThen .takeWord fun word => ?_
  rw [plain.context.generics, Dict.get?_nil]
  dsimp only
  cases declared : alias? site word with
  | none => exact .failAt rfl
  | some declaration =>
      simp only [expandAlias]
      split
      · exact .failAt rfl
      · refine .lift (Builds.within ?_ _ _)
        exact reads.readDeclared plain _ (isBare_alias? plain declared) _

theorem staysWithin_selection : selection.StaysWithin registry := by
  intro types site reads plain
  refine .andThen .current fun _ => .andThen .takeWord fun utility =>
    .andThen (.expectMark _) fun _ => .andThen .current fun _ => ?_
  refine (reads site plain).bind fun target here => .andThen (.expectMark _) fun _ =>
    .andThen .current fun _ => (reads site plain).bind fun keysNode _ =>
      .andThen (.expectMark _) fun _ => ?_
  split
  · exact .failAt rfl
  · split
    · exact .failAt rfl
    · split
      · exact .failAt rfl
      · exact .located (Node.builds_selectProperties here)

/-- Without host classes, none is found. -/
theorem staysWithin_classType (closed : registry.IsClosed) : classType.StaysWithin registry := by
  intro types site _ plain
  refine .andThen .current fun _ => .andThen .takeWord fun word => ?_
  dsimp only
  split
  · exact .failAt rfl
  next className hostClass found =>
    obtain ⟨candidate, _, known⟩ := List.exists_of_findSome?_eq_some found
    rw [plain.registry_eq, closed.classless] at known
    cases known

/-- Every rule of the language ends well. -/
theorem staysWithin_of_mem_builtIn (closed : registry.IsClosed) {rule : Rule}
    (member : rule ∈ builtIn) : rule.StaysWithin registry := by
  simp only [builtIn, List.mem_cons, List.not_mem_nil, or_false] at member
  rcases member with rfl | rfl | rfl | rfl | rfl | rfl | rfl | rfl | rfl | rfl | rfl
  · exact staysWithin_arrayLike
  · exact staysWithin_struct
  · exact staysWithin_keyword
  · exact staysWithin_int
  · exact staysWithin_literal
  · exact staysWithin_classConstant closed
  · exact staysWithin_enumeration
  · exact staysWithin_dateTime
  · exact staysWithin_aliasName
  · exact staysWithin_selection
  · exact staysWithin_classType closed

end Rule

/-! ## Types -/

namespace Parser

variable {primary : Parse Node}

theorem endsWell_listBrackets (turns : Nat) {node : Node} (here : node.IsDeclaredIn registry) :
    (listBrackets turns node).EndsWell (Node.IsDeclaredIn registry) := by
  induction turns generalizing node with
  | zero => exact .pure here
  | succ turns ih =>
      refine .andThen (.eatMark _) fun eaten => ?_
      cases eaten with
      | true => exact ih (Node.isDeclaredIn_list here)
      | false => exact .pure here

theorem endsWell_postfixType (reads : primary.EndsWell (Node.IsDeclaredIn registry)) :
    (postfixType primary).EndsWell (Node.IsDeclaredIn registry) :=
  reads.bind fun _ here => .andThen .turns fun turns => endsWell_listBrackets turns here

theorem endsWell_intersectionType (reads : primary.EndsWell (Node.IsDeclaredIn registry)) :
    (intersectionType primary).EndsWell (Node.IsDeclaredIn registry) := by
  refine .andThen .current fun lexeme => (endsWell_postfixType reads).bind fun first here => ?_
  refine .andThen .turns fun turns =>
    ((endsWell_postfixType reads).following .ampersand turns).bind fun others each => ?_
  split
  · exact .pure here
  · exact .located (Node.builds_intersectionOf (List.forall_mem_cons.mpr ⟨here, each⟩))

theorem isDeclaredIn_of_mem_flattened {node member : Node} (declared : node.IsDeclaredIn registry)
    (among : member ∈ flattened node) : member.IsDeclaredIn registry := by
  unfold flattened at among
  split at among
  · exact declared.of_mem_children among
  · exact List.mem_singleton.mp among ▸ declared

theorem builds_unionNode {members : List Node}
    (each : ∀ member ∈ members, member.IsDeclaredIn registry) :
    Builds (Node.IsDeclaredIn registry) (unionNode members) := by
  unfold unionNode
  split
  · exact Node.builds_discriminatedUnionOf _ each
  · exact Node.builds_unionOf each

theorem endsWell_unionType (reads : primary.EndsWell (Node.IsDeclaredIn registry)) :
    (unionType primary).EndsWell (Node.IsDeclaredIn registry) := by
  refine .andThen .current fun lexeme => .andThen (.eatMark _) fun nullable => ?_
  refine (endsWell_intersectionType reads).bind fun first here => .andThen .turns fun turns => ?_
  refine ((endsWell_intersectionType reads).following .pipe turns).bind fun others each => ?_
  have members : ∀ member ∈ (if nullable then [Node.builtIn .null] else []) ++ first :: others,
      member.IsDeclaredIn registry := by
    intro member among
    rcases List.mem_append.mp among with null | rest
    · split at null
      · obtain rfl := List.mem_singleton.mp null
        exact Node.isDeclaredIn_builtIn _
      · cases null
    · exact List.forall_mem_cons.mpr ⟨here, each⟩ member rest
  dsimp only
  generalize (if nullable then [Node.builtIn .null] else []) ++ first :: others = all at members
  split
  · exact .pure (members _ List.mem_cons_self)
  · refine .located (builds_unionNode fun member among => ?_)
    obtain ⟨origin, inside, from_⟩ := List.mem_flatMap.mp among
    exact isDeclaredIn_of_mem_flattened (members origin inside) from_

theorem endsWell_primaryBody {rules : List Rule} (each : ∀ rule ∈ rules, rule.StaysWithin registry)
    {types : TypeReader} (reads : types.StaysWithin registry) {site : Site}
    (plain : site.IsPlain registry) :
    (primaryBody rules types site).EndsWell (Node.IsDeclaredIn registry) := by
  refine .andThen (.eatMark _) fun parenthesized => ?_
  cases parenthesized with
  | true =>
      exact (reads site plain).bind fun node here => .andThen (.expectMark _) fun _ => .pure here
  | false =>
      refine .andThen .get fun cursor => ?_
      split
      next rule found => exact each rule (List.mem_of_find?_eq_some found) types site reads plain
      · split <;> exact .fail rfl

/-- With any number of levels left, a parser whose rules end well does so itself. -/
theorem staysWithin_typeWithin {parser : Parser}
    (each : ∀ rule ∈ parser.rules, rule.StaysWithin registry) (levels : Nat) :
    (parser.typeWithin levels).StaysWithin registry := by
  induction levels with
  | zero => exact fun _ _ => endsWell_unionType (.fail rfl)
  | succ levels ih => exact fun _ plain => endsWell_unionType (endsWell_primaryBody each ih plain)

/-- With the rules of the language and a closed registry, every text of a type is one that names
what is declared, or is turned down for something else than a constant with an unknown case. -/
theorem builds_parseIn (closed : registry.IsClosed) (maxDepth : Nat) {context : ParsingContext}
    (bare : context.IsBare) (text : String) :
    Builds (Node.IsDeclaredIn registry) (Parser.parseIn { registry, maxDepth } context text) := by
  have rules : ∀ rule ∈ Parser.rules { registry, maxDepth }, rule.StaysWithin registry := by
    intro rule member
    rw [Parser.rules, List.append_nil] at member
    exact Rule.staysWithin_of_mem_builtIn closed member
  exact (staysWithin_typeWithin rules maxDepth).readText ⟨rfl, bare⟩ text

end Parser

end Schemata
