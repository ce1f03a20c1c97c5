import Schemata.Proofs.Node.Children
import Schemata.Proofs.Parser.ClassSides
import Schemata.Proofs.Parser.Contract

/-!
# The rules of the language under a contract

Each rule keeps to a contract when the types it reads do, at the cursor as well as in the texts of
declarations.  What it gives has at most three layers over what they give.
-/

namespace Schemata

namespace Contract.Builds

variable {α β : Type} {holds weaker : α → Prop} {outcome : Except SyntaxError α}

theorem imp (builds : Builds holds outcome) (implies : ∀ value, holds value → weaker value) :
    Builds weaker outcome := by
  cases outcome with
  | ok value => exact implies value builds
  | error error => exact builds

theorem map {change : α → β} (builds : Builds (fun _ => True) outcome) :
    Builds (fun _ => True) (outcome.map change) := by
  cases outcome with
  | ok value => trivial
  | error error => exact builds

end Contract.Builds

/-! ## Layers -/

namespace Node

/-- At most some layers of nodes stand over nodes of a kind. -/
inductive Over (base : Node → Prop) : Nat → Node → Prop where
  | base {layers : Nat} {node : Node} (here : base node) : Over base layers node
  | layer {layers : Nat} {node : Node} (inside : ∀ child ∈ node.children, Over base layers child) :
      Over base (layers + 1) node

namespace Over

variable {base : Node → Prop} {layers more : Nat} {node inner : Node}

theorem mono (few : layers ≤ more) (layered : Over base layers node) : Over base more node := by
  induction layered generalizing more with
  | base here => exact .base here
  | layer inside ih =>
      obtain ⟨more, rfl⟩ := Nat.exists_eq_succ_of_ne_zero (Nat.ne_zero_of_lt few)
      exact .layer fun child among => ih child among (Nat.le_of_succ_le_succ few)

theorem leaf (alone : node.children = []) : Over base (layers + 1) node := by
  refine .layer fun child inside => ?_
  rw [alone] at inside
  cases inside

/-- A node around a single one. -/
theorem around (only : node.children = [inner]) (layered : Over base layers inner) :
    Over base (layers + 1) node := by
  refine .layer fun child inside => ?_
  rw [only] at inside
  exact List.mem_singleton.mp inside ▸ layered

theorem of_mem_children (closed : ∀ node, base node → ∀ child ∈ node.children, base child)
    (layered : Over base layers node) {child : Node} (among : child ∈ node.children) :
    Over base layers child := by
  cases layered with
  | base here => exact .base (closed node here child among)
  | layer inside => exact (inside child among).mono (Nat.le_succ _)

end Over

open Contract (Builds)

variable {base : Node → Prop} {layers : Nat}

theorem over_tupleOf {elements : List Node}
    (each : ∀ element ∈ elements, Over base layers element) :
    Builds (Over base (layers + 1)) (tupleOf elements) := by
  unfold tupleOf
  split
  · exact ⟨rfl, rfl⟩
  · exact .layer each

theorem over_structOf (kind : StructKind) {properties : List (Property Node)}
    (each : ∀ property ∈ properties, Over base layers property.node) :
    Builds (Over base (layers + 1)) (structOf kind properties) := by
  unfold structOf
  split
  · exact ⟨rfl, rfl⟩
  · split
    · exact ⟨rfl, rfl⟩
    · exact .layer (List.forall_mem_map.mpr each)

theorem over_unionOf {members : List Node} (each : ∀ member ∈ members, Over base layers member) :
    Builds (Over base (layers + 1)) (unionOf members) := by
  unfold unionOf
  split
  · exact ⟨rfl, rfl⟩
  · exact .layer each

theorem over_discriminatedUnionOf {members : List Node} (discriminator : Discriminator)
    (each : ∀ member ∈ members, Over base layers member) :
    Builds (Over base (layers + 1)) (discriminatedUnionOf members discriminator) := by
  unfold discriminatedUnionOf
  split
  · exact ⟨rfl, rfl⟩
  · split
    · exact ⟨rfl, rfl⟩
    · exact .layer each

theorem plain_sharedKind (kind : Option StructKind) (members : List Node) :
    Builds (fun _ => True) (sharedKind kind members) := by
  induction members generalizing kind with
  | nil => trivial
  | cons member rest ih =>
      unfold sharedKind
      split
      · split
        · exact ⟨rfl, rfl⟩
        · exact ih _
      · split
        · exact ih _
        · exact ⟨rfl, rfl⟩

theorem over_intersectionOf {members : List Node}
    (each : ∀ member ∈ members, Over base layers member) :
    Builds (Over base (layers + 1)) (intersectionOf members) := by
  unfold intersectionOf
  split
  · exact ⟨rfl, rfl⟩
  · have shared := plain_sharedKind none members
    split
    next error stopped =>
      rw [stopped] at shared
      exact shared
    · exact ⟨rfl, rfl⟩
    · exact .layer each

theorem over_castTo {inner : Node} {target : String} {strategy : CastingStrategy}
    (layered : Over base layers inner) :
    Builds (Over base (layers + 1)) (castTo inner target strategy) := by
  unfold castTo
  split
  · exact .around rfl layered
  · exact ⟨rfl, rfl⟩

/-- A selection fails for nothing but its own keys. -/
theorem plain_selectProperties (keys : List String) (keep : Bool) (node : Node) :
    Builds (fun _ => True) (node.selectProperties keys keep) := by
  induction node using induction_on_children with
  | step node ih =>
      cases node with
      | named inner name => exact (ih inner (List.mem_singleton_self _)).map
      | cast inner target strategy => exact (ih inner (List.mem_singleton_self _)).map
      | struct kind properties =>
          have each : ∀ property ∈ properties.filter fun property =>
              keys.contains property.name == keep, Over (fun _ => True) 0 property.node :=
            fun _ _ => .base trivial
          exact (over_structOf kind each).imp fun _ _ => trivial
      | _ => exact ⟨rfl, rfl⟩

end Node

/-! ## Readers -/

/-- The declarations whose texts a class of this shape is made of. -/
def ClassShape.decls : ClassShape → List FieldDecl
  | .object parameters fields => parameters.getD [] ++ fields
  | .collection item => [{ name := "item", typeText := item }]

/-- The types that are read in some surroundings keep to the contract: those at the cursor, those
that are bound to names, and those of the texts of aliases and classes that the text names. -/
structure Contract.Reads (contract : Contract) (base : Node → Prop) (types : TypeReader)
    (site : Site) : Prop where
  here : contract.Meets base (types site)
  bound : ∀ {word node}, Dict.get? site.context.generics word = some node → base node
  selected : ∀ {keys keep node result}, base node → node.selectProperties keys keep = .ok result →
    base result
  aliases : ∀ lexeme ∈ contract.lexemes, ∀ word, lexeme.token = .word word →
    Dict.get? site.context.generics word = none → ∀ declaration,
      Rule.alias? site word = some declaration →
        contract.Meets base (Rule.expandAlias types site lexeme declaration)
  fields : ∀ lexeme ∈ contract.lexemes, ∀ word, lexeme.token = .word word →
    ∀ className hostClass, Rule.class? site word = some (className, hostClass) →
      ∀ decl ∈ hostClass.shape.decls, contract.Makes base <|
        (types.readDeclared site (.object className) (.declaring className) decl.typeText).mapError
          (·.within .field s!"{className}.{decl.name}")

namespace Rule

open Contract (Builds)
open Node (Over)

variable {contract : Contract} {base : Node → Prop} {types : TypeReader} {site : Site}

/-! ## Leaves -/

theorem over_union_builtIn (kinds : List BuiltIn) :
    Over base 3 (.union (kinds.map .builtIn) none) := by
  refine .layer fun child among => ?_
  obtain ⟨kind, _, rfl⟩ := List.mem_map.mp among
  exact .leaf rfl

theorem over_keywordType? {word : String} {node : Node} (known : keywordType? word = some node) :
    Over base 3 node := by
  unfold keywordType? at known
  split at known
  all_goals cases known
  all_goals first
    | exact .leaf rfl
    | exact .around rfl (.leaf rfl)
    | exact over_union_builtIn [.int, .float, .bool, .string]
    | exact over_union_builtIn [.int, .float]

theorem meets_keyword : contract.Meets (Over base 3) (keyword.read types site) := by
  refine .bind .current fun lexeme has => .andThen .takeWord fun word => ?_
  cases known : keywordType? word with
  | some node => exact .pure (over_keywordType? known)
  | none => exact .failAt rfl has

theorem meets_intBound : contract.Meets (fun _ => True) intBound := by
  refine .get_bind fun cursor inside => ?_
  dsimp only
  split
  next value seen =>
    exact (Contract.Ends.advance inside (by rw [seen]; rfl)).bind inside fun _ _ => .pure trivial
  next seen =>
    exact (Contract.Ends.advance inside (by rw [seen]; rfl)).bind inside fun _ _ => .pure trivial
  next seen =>
    exact (Contract.Ends.advance inside (by rw [seen]; rfl)).bind inside fun _ _ => .pure trivial
  · exact Contract.Meets.fail rfl inside

theorem meets_int : contract.Meets (Over base 3) (int.read types site) := by
  refine .andThen .takeWord fun _ => .andThen (.eatMark rfl) fun bounded => ?_
  cases bounded with
  | false => exact .pure (.leaf rfl)
  | true =>
      refine .bind .current fun lowLexeme has => .andThen meets_intBound fun low =>
        .andThen (.expectMark rfl) fun _ => .andThen meets_intBound fun high =>
          .andThen (.expectMark rfl) fun _ => ?_
      split
      · exact .failAt rfl has
      · exact .pure (.around rfl (.leaf rfl))

theorem meets_literal : contract.Meets (Over base 3) (literal.read types site) := by
  intro cursor inside
  cases known : literalOf? cursor.current.token with
  | some value =>
      have no_brace : cursor.current.token.isBrace = false := by
        cases seen : cursor.current.token with
        | punctuation mark =>
            rw [seen] at known
            cases known
        | _ => rfl
      refine (Contract.Ends.advance inside no_brace).bind inside ?_
      rintro _ rfl
      rw [known]
      exact .pure (.leaf rfl)
  | none =>
      unfold Contract.Ends literal
      rcases Parse.advance_cases cursor with ⟨after, run, rest, same⟩ | ⟨cause, after, run, plain⟩
      · have inside' : contract.Inside after :=
          ⟨same.trans inside.1, .trans (rest ▸ List.suffix_cons _ _) inside.2⟩
        dsimp only
        rw [EStateM.bind_of_ok run, known]
        exact inside'.faulty_errorAt inside.has_current rfl
      · dsimp only
        rw [EStateM.bind_of_error run]
        exact inside.faulty_errorAt inside.has_current plain

/-! ## Lists, tuples and structs -/

section

variable (reads : contract.Reads base types site)
include reads

theorem meets_typeArguments (isList : Bool) :
    contract.Meets (Over base 1) (typeArguments types site isList) := by
  refine .bind .current fun firstLexeme has => reads.here.bind fun first below => ?_
  refine .andThen (.eatMark rfl) fun two => ?_
  cases two with
  | false => exact .andThen (.expectMark rfl) fun _ => .pure (.around rfl (.base below))
  | true =>
      refine reads.here.bind fun value inner => .andThen (.expectMark rfl) fun _ => ?_
      unfold keyedType
      split
      next node keyed =>
        split at keyed
        · split at keyed <;> cases keyed
          exact .pure (.around rfl (.base inner))
        · cases keyed
          exact .pure (.around rfl (.base inner))
        · cases keyed
      next cause keyed =>
        refine .failAt ?_ has
        split at keyed
        · split at keyed <;> cases keyed
          rfl
        · cases keyed
        · cases keyed
          split <;> rfl

omit reads in
theorem meets_tupleKey (position : Nat) :
    contract.Meets (fun _ => True) (tupleKey position) := by
  refine .get_bind fun cursor inside => ?_
  split
  next key seen =>
    split
    next colon =>
      split
      · have no_brace : cursor.current.token.isBrace = false := by rw [seen]; rfl
        unfold Contract.Ends
        rcases Parse.advance_cases cursor with ⟨after, run, rest, input⟩ | ⟨_, _, run, plain⟩
        · have colon' : after.current.token = .punctuation .colon :=
            (Parse.tokenAt_zero_of_advance run).trans (Token.isMark_eq_true_iff.mp colon)
          have reaches : cursor.Reaches after :=
            ⟨input, [cursor.current], rest, .singleton no_brace⟩
          have second : contract.Ends (fun _ => True) after (do
              let _ ← Parse.advance
              return ()) :=
            (Contract.Ends.advance (inside.reaches reaches) (by rw [colon']; rfl)).bind
              (inside.reaches reaches) fun _ _ => .pure trivial
          rw [EStateM.bind_of_ok run]
          exact second.behind reaches
        · rw [EStateM.bind_of_error run]
          exact inside.faulty_errorAt inside.has_current plain
      · exact Contract.Meets.fail rfl inside
    · exact Contract.Meets.pure trivial inside
  · exact Contract.Meets.pure trivial inside

theorem meets_tupleElements (turns position : Nat) :
    contract.Meets (∀ element ∈ ·, base element) (tupleElements types site turns position) := by
  induction turns generalizing position with
  | zero => exact .pure fun _ nothing => nomatch nothing
  | succ turns ih =>
      refine .andThen .look fun cursor => ?_
      split
      · exact .pure fun _ nothing => nomatch nothing
      · refine .andThen (meets_tupleKey position) fun _ => ?_
        refine reads.here.bind fun element here => .andThen (.eatMark rfl) fun more => ?_
        cases more with
        | false => exact .pure (List.forall_mem_singleton.mpr here)
        | true =>
            refine (ih _).bind fun others later => ?_
            exact .pure (List.forall_mem_cons.mpr ⟨here, later⟩)

theorem meets_tuple : contract.Meets (Over base 1) (tuple types site) :=
  .braces (fun turns => meets_tupleElements reads turns 0) fun _ _ has each =>
    .located has (Node.over_tupleOf fun element among => .base (each element among))

omit reads in
theorem isBrace_of_propertyName? {token : Token} (named : (propertyName? token).isSome = true) :
    token.isBrace = false := by
  cases token with
  | punctuation mark => cases named
  | _ => rfl

theorem meets_structProperties (turns : Nat) (earlier : List (Property Node)) :
    contract.Meets (∀ property ∈ ·, base property.node)
      (structProperties types site turns earlier) := by
  induction turns generalizing earlier with
  | zero => exact .pure fun _ nothing => nomatch nothing
  | succ turns ih =>
      refine .get_bind fun cursor inside => ?_
      split
      · exact Contract.Meets.pure (fun _ nothing => nomatch nothing) inside
      · refine Contract.Ends.look ?_
        dsimp only
        cases named : propertyName? cursor.current.token with
        | none => exact Contract.Meets.fail rfl inside
        | some name =>
            have no_brace : cursor.current.token.isBrace = false :=
              isBrace_of_propertyName? (named ▸ rfl)
            refine (Contract.Ends.advance inside no_brace).bind inside fun _ _ => ?_
            refine .andThen (.eatMark rfl) fun optional => .andThen (.expectMark rfl) fun _ =>
              reads.here.bind fun node here => ?_
            split
            · exact .failAt rfl inside.has_current
            · refine .andThen (.eatMark rfl) fun more => ?_
              cases more with
              | false => exact .pure (List.forall_mem_singleton.mpr here)
              | true =>
                  refine (ih _).bind fun others later => ?_
                  exact .pure (List.forall_mem_cons.mpr ⟨here, later⟩)

theorem meets_arrayLike : contract.Meets (Over base 3) (arrayLike.read types site) := by
  have constrained (node : Node) (here : Over base 1 node) (word : String) :
      contract.Meets (Over base 3)
        (if word == "non-empty-array" || word == "non-empty-list" then
          pure (.constrained node [.nonEmpty]) else pure node) := by
    split
    · exact .pure (.around rfl (here.mono (by decide)))
    · exact .pure (here.mono (by decide))
  refine .andThen .takeWord fun word => .andThen .look fun cursor =>
    .andThen (.eatMark rfl) fun angle => ?_
  dsimp only
  split
  · exact (meets_typeArguments reads _).bind fun node here => constrained node here word
  · split
    · exact (meets_tuple reads).bind fun node here => constrained node here word
    · split
      · exact .pure (.around rfl (.around rfl (.leaf rfl)))
      · exact .pure (.around rfl (.leaf rfl))

theorem meets_struct : contract.Meets (Over base 3) (struct.read types site) := by
  refine .bind .current fun keywordLexeme has => .andThen .takeWord fun word => ?_
  refine .braces (fun turns => meets_structProperties reads turns []) fun _ _ _ each => ?_
  exact .located has (Node.over_structOf _ fun property among => .base (each property among))

end

/-! ## Names -/

theorem meets_checkCase {lexeme : Lexeme} (has : contract.Has lexeme) (value : Literal) :
    contract.Meets (fun _ => True) (checkCase site lexeme value) := by
  unfold checkCase
  split
  · split
    · exact .pure trivial
    · exact .failAt rfl has
  · exact .pure trivial

theorem meets_addConstants {lexeme : Lexeme} (has : contract.Has lexeme) (values : List Literal)
    (entries : List (String × Literal)) :
    contract.Meets (fun _ => True) (addConstants site lexeme values entries) := by
  induction entries generalizing values with
  | nil => exact .pure trivial
  | cons entry rest ih =>
      refine .andThen (meets_checkCase has entry.2) fun _ => ?_
      split
      · exact ih _
      · exact ih _

theorem meets_oneOf {lexeme : Lexeme} (has : contract.Has lexeme) (pattern : String)
    (values : List Literal) :
    contract.Meets (Over base 3) (oneOf lexeme pattern values) := by
  unfold oneOf
  split
  · exact .failAt rfl has
  · exact .pure (.leaf rfl)
  · refine .located has (Node.over_unionOf fun member among => ?_)
    obtain ⟨value, _, rfl⟩ := List.mem_map.mp among
    exact .leaf rfl

theorem meets_wildcard {classLexeme constLexeme : Lexeme} (has : contract.Has classLexeme)
    (has' : contract.Has constLexeme) (pattern : String) (start : List Char)
    (candidates : List String) :
    contract.Meets (Over base 3)
      (wildcard site classLexeme constLexeme pattern start candidates) := by
  induction candidates with
  | nil => exact .failAt rfl has
  | cons candidate rest ih =>
      refine .andThen (meets_addConstants has' _ _) fun values => ?_
      split
      · exact ih
      · exact meets_oneOf has' _ _

theorem meets_constant {classLexeme constLexeme : Lexeme} (has : contract.Has classLexeme)
    (has' : contract.Has constLexeme) (pattern name : String) (candidates : List String) :
    contract.Meets (Over base 3)
      (constant site classLexeme constLexeme pattern name candidates) := by
  induction candidates with
  | nil => exact .failAt rfl has
  | cons candidate rest ih =>
      rw [constant]
      split
      · exact .pure (.leaf rfl)
      · split
        · exact .andThen (meets_checkCase has' _) fun _ => .pure (.leaf rfl)
        · split
          · exact .failAt rfl has'
          · exact ih

theorem meets_classConstant : contract.Meets (Over base 3) (classConstant.read types site) := by
  refine .bind .current fun classLexeme has => .andThen .takeWord fun className =>
    .andThen (.expectMark rfl) fun _ => .bind .current fun constLexeme has' =>
      .andThen .takeWord fun name => ?_
  dsimp only
  split
  · exact meets_wildcard has has' _ _ _
  · exact meets_constant has has' _ _ _

theorem meets_enumeration : contract.Meets (Over base 3) (enumeration.read types site) := by
  refine .bind .current fun lexeme has => .andThen .takeWord fun word => ?_
  dsimp only
  split
  · exact .pure (.leaf rfl)
  · exact .failAt rfl has

theorem meets_dateTime : contract.Meets (Over base 3) (dateTime.read types site) := by
  refine .bind .current fun lexeme has => .andThen .takeWord fun word => ?_
  dsimp only
  split
  · exact .pure (.leaf rfl)
  · exact .failAt rfl has

section

variable (reads : contract.Reads base types site)
include reads

theorem meets_aliasName : contract.Meets (Over base 3) (aliasName.read types site) := by
  refine .word_bind fun lexeme among word seen => ?_
  split
  next node bound => exact .pure (.base (reads.bound bound))
  next unbound =>
    split
    next declaration found =>
      exact (reads.aliases lexeme among word seen unbound declaration found).imp fun _ => .base
    · exact .failAt rfl (.inl among)

theorem meets_selection : contract.Meets (Over base 3) (selection.read types site) := by
  refine .bind .current fun utilityLexeme has => .andThen .takeWord fun utility =>
    .andThen (.expectMark rfl) fun _ => .bind .current fun targetLexeme has_target => ?_
  refine reads.here.bind fun target here => .andThen (.expectMark rfl) fun _ =>
    .bind .current fun keysLexeme has_keys => reads.here.bind fun keysNode _ =>
      .andThen (.expectMark rfl) fun _ => ?_
  split
  · exact .failAt rfl has_keys
  next keys _ =>
  split
  · exact .failAt rfl has_target
  split
  · exact .failAt rfl has_keys
  · refine .located has ?_
    cases selected : target.selectProperties keys (utility == "Pick") with
    | ok result => exact .base (reads.selected here selected)
    | error error =>
        have plain := Node.plain_selectProperties keys (utility == "Pick") target
        rw [selected] at plain
        exact plain

end

/-! ## Classes -/

namespace ClassExpansion

variable {expansion : ClassExpansion}

/-- The text of a declaration keeps to the contract. -/
def Keeps (contract : Contract) (base : Node → Prop) (expansion : ClassExpansion)
    (decl : FieldDecl) : Prop :=
  contract.Makes base <|
    (expansion.types.readDeclared expansion.site (.object expansion.className)
      (.declaring expansion.className) decl.typeText).mapError
        (·.within .field s!"{expansion.className}.{decl.name}")

theorem makes_fieldType {decl : FieldDecl} (reads : expansion.Keeps contract base decl) :
    contract.Makes (Over base 1) (expansion.fieldType decl) := by
  unfold Keeps at reads
  unfold fieldType
  dsimp only
  split
  next error stopped =>
    rw [stopped] at reads
    exact reads
  next node read =>
    rw [read] at reads
    change Over base 1 (if decl.validators.isEmpty then node else .constrained node decl.validators)
    split
    · exact .base reads
    · exact .around rfl (.base reads)

theorem makes_parameterProperties {parameters : List FieldDecl}
    (reads : ∀ decl ∈ parameters, expansion.Keeps contract base decl) :
    contract.Makes (∀ property ∈ ·, Over base 1 property.node)
      (expansion.parameterProperties parameters) := by
  induction parameters with
  | nil => exact fun _ nothing => nomatch nothing
  | cons decl rest ih =>
      obtain ⟨first, later⟩ := List.forall_mem_cons.mp reads
      refine (makes_fieldType first).bind fun node here => (ih later).bind fun others each => ?_
      exact List.forall_mem_cons.mpr ⟨here, each⟩

theorem over_promote {name : String} {properties : List (Property Node)}
    (each : ∀ property ∈ properties, Over base 1 property.node) :
    ∀ property ∈ promote name properties, Over base 1 property.node := by
  induction properties with
  | nil => exact each
  | cons property rest ih =>
      obtain ⟨here, later⟩ := List.forall_mem_cons.mp each
      unfold promote
      split
      · exact List.forall_mem_cons.mpr ⟨here, later⟩
      · exact List.forall_mem_cons.mpr ⟨here, ih later⟩

theorem makes_addFields {fail : SyntaxError.Cause → SyntaxError}
    (fails : ∀ cause, cause.isRecursiveAlias = false → contract.faulty (fail cause))
    (direction : Direction)
    {properties : List (Property Node)} {fields : List FieldDecl}
    (each : ∀ property ∈ properties, Over base 1 property.node)
    (reads : ∀ decl ∈ fields, expansion.Keeps contract base decl) :
    contract.Makes (∀ property ∈ ·, Over base 1 property.node)
      (expansion.addFields fail direction properties fields) := by
  induction fields generalizing properties with
  | nil => exact each
  | cons decl rest ih =>
      obtain ⟨first, later⟩ := List.forall_mem_cons.mp reads
      unfold addFields
      dsimp only
      split
      · exact ih (over_promote each) later
      split
      · exact fails _ rfl
      split
      · exact fails _ rfl
      split
      · exact fails _ rfl
      · have made := makes_fieldType first
        split
        next error stopped =>
          rw [stopped] at made
          exact made
        next node read =>
          rw [read] at made
          refine ih ?_ later
          intro property among
          rcases List.mem_append.mp among with old | new
          · exact each property old
          · exact List.mem_singleton.mp new ▸ made

theorem meets_objectType (has : contract.Has expansion.lexeme)
    {parameters : Option (List FieldDecl)} {fields : List FieldDecl}
    (reads : ∀ decl ∈ parameters.getD [] ++ fields, expansion.Keeps contract base decl) :
    contract.Meets (Over base 3) (expansion.objectType parameters fields) := by
  obtain ⟨given, added⟩ := List.forall_mem_append.mp reads
  refine .bind .look fun cursor inside => ?_
  have fails (cause : SyntaxError.Cause) (unrelated : cause.isRecursiveAlias = false) :
      contract.faulty (cursor.errorAt expansion.lexeme cause) :=
    inside.faulty_errorAt has unrelated
  refine (Contract.Meets.lift (makes_parameterProperties given)).bind fun inputs each => ?_
  refine (Contract.Meets.lift (makes_addFields fails _ each added)).bind fun properties all => ?_
  have built := Node.over_structOf .object all
  split
  next shape struct =>
    rw [struct] at built
    exact .located has (Node.over_castTo built)
  next error stopped =>
    rw [stopped] at built
    obtain ⟨plain, points⟩ := inside.pointsAt_locateAt has built.1 built.2
    exact fun _ _ => contract.plain plain points

theorem meets_collectionType (has : contract.Has expansion.lexeme) {item : String}
    (reads : expansion.Keeps contract base { name := "item", typeText := item }) :
    contract.Meets (Over base 3) (expansion.collectionType item) := by
  refine (Contract.Meets.lift (makes_fieldType reads)).bind fun inner layered => ?_
  exact .located has (Node.over_castTo (.around rfl layered))

end ClassExpansion

theorem meets_classType (reads : contract.Reads base types site) :
    contract.Meets (Over base 3) (classType.read types site) := by
  refine .word_bind fun lexeme among word seen => ?_
  dsimp only
  split
  · exact .failAt rfl (.inl among)
  next className hostClass found =>
    have declared := reads.fields lexeme among word seen className hostClass found
    split
    · exact .failAt rfl (.inl among)
    · split
      next parameters fields shape =>
        rw [shape] at declared
        exact ClassExpansion.meets_objectType (.inl among) declared
      next item shape =>
        rw [shape] at declared
        exact ClassExpansion.meets_collectionType (.inl among)
          (declared _ (List.mem_singleton_self _))

/-- Every rule of the language keeps to the contract. -/
theorem meets_of_mem_builtIn (reads : contract.Reads base types site) {rule : Rule}
    (member : rule ∈ builtIn) : contract.Meets (Over base 3) (rule.read types site) := by
  simp only [builtIn, List.mem_cons, List.not_mem_nil, or_false] at member
  rcases member with rfl | rfl | rfl | rfl | rfl | rfl | rfl | rfl | rfl | rfl | rfl
  · exact meets_arrayLike reads
  · exact meets_struct reads
  · exact meets_keyword
  · exact meets_int
  · exact meets_literal
  · exact meets_classConstant
  · exact meets_enumeration
  · exact meets_dateTime
  · exact meets_aliasName reads
  · exact meets_selection reads
  · exact meets_classType reads

end Rule

end Schemata
