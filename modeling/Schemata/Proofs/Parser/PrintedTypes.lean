import Schemata.Proofs.Parser.PrintedRules

/-!
# Printed types

The grammar reads every readable node back from its canonical form, when its types stand no deeper
than the parser has levels.  A primary type ends at an ampersand, a member of a union at a pipe, and
a whole type at the marks between the parts of other types.
-/

namespace Schemata

open Parse Token Rule

namespace Node

variable {members : List Node} {kind : StructKind}

/-- Structs of one kind share that kind. -/
theorem sharedKind_of_structs {start : Option StructKind} (agrees : ∀ found ∈ start, found = kind)
    (structs : ∀ member ∈ members, ∃ properties, member = .struct kind properties)
    (shown : start = some kind ∨ members ≠ []) : sharedKind start members = .ok (some kind) := by
  induction members generalizing start with
  | nil =>
      rcases shown with rfl | absurd
      · rfl
      · exact False.elim (absurd rfl)
  | cons member rest ih =>
      obtain ⟨⟨properties, rfl⟩, others⟩ := List.forall_mem_cons.mp structs
      have same : ¬ (start.any (· ≠ kind)) = true := by
        cases start with
        | none => exact Bool.false_ne_true
        | some found => simp [agrees found rfl]
      rw [sharedKind, structKind?]
      simp only [if_neg same]
      exact ih (fun found here => (Option.some.inj here).symm) others (.inl rfl)

theorem intersectionOf_of_structs (several : 2 ≤ members.length)
    (structs : ∀ member ∈ members, ∃ properties, member = .struct kind properties) :
    intersectionOf members = .ok (.intersection members kind) := by
  have some_members : members ≠ [] := by
    rintro rfl
    exact absurd several (by decide)
  have shared : sharedKind none members = .ok (some kind) :=
    sharedKind_of_structs (fun _ absurd => nomatch absurd) structs (.inr some_members)
  rw [intersectionOf, if_neg (by omega), shared]

/-- A readable node needs a level of its own. -/
theorem nesting_pos {node : Node} (readable : node.Readable) : 0 < node.nesting := by
  induction node using induction_on_children with
  | step node ih =>
      have here := readable.here
      cases node with
      | union members _ | intersection members _ =>
          cases members with
          | nil => exact absurd here.1 (by decide)
          | cons first rest =>
              have among : first ∈ first :: rest := List.mem_cons_self
              exact Nat.lt_of_lt_of_le (ih first among (readable.of_mem_children among))
                (nesting_le_of_mem among)
      | _ => exact Nat.succ_pos _

end Node

namespace Parser

variable {site : Site} {others : List Rule}

/-! ## Primary types -/

/-- A primary type is read by the rule for it. -/
theorem leads_primaryBody {types : TypeReader} {rule : Rule} {tokens remaining : List Token}
    {holds : Node → Prop} (noParen : tokens.head? ≠ some (.punctuation .openParen))
    (chosen : Chosen others site tokens rule)
    (leads : Leads (rule.read types site) tokens holds remaining) :
    Leads (primaryBody (Rule.builtIn ++ others) types site) tokens holds remaining := by
  refine (Leads.eatMark_of_ne noParen).bind ?_
  rintro _ rfl
  refine Leads.get.bind fun cursor start => ?_
  simp only [chosen cursor start]
  exact leads

/-- A primary type is read back when the rule for it reads it back. -/
theorem reads_primaryBody {types : TypeReader} {rule : Rule} {node : Node}
    (opens : Opens node.tokens)
    (chosen : ∀ remaining, Stops primaryEnds remaining →
      Chosen others site (node.tokens ++ remaining) rule)
    (reads : ReadsBack (rule.read types site) primaryEnds node) :
    ReadsBack (primaryBody (Rule.builtIn ++ others) types site) primaryEnds node :=
  fun remaining stops =>
    leads_primaryBody (opens.head?_ne remaining _) (chosen remaining stops) (reads stops)

/-! ## Types between marks -/

section

variable {step : Parse Node} {mark : Punctuation} {ends : List Punctuation}
  {first : Node} {rest : List Node} {remaining : List Token}

/-- Types with a mark between them are read one by one. -/
theorem leads_separated (each : ∀ node ∈ first :: rest, ReadsBack step (mark :: ends) node)
    (last : mark ∉ ends) (stops : Stops ends remaining) {finish : Node → List Node → Parse Node}
    {result : Node} (finished : Leads (finish first rest) remaining (· = result) remaining) :
    Leads (do
        let first ← step
        let others ← Parse.following mark step (← Parse.turns)
        finish first others)
      (joined mark ((first :: rest).map Node.tokens) ++ remaining) (· = result) remaining := by
  obtain ⟨here, later⟩ := List.forall_mem_cons.mp each
  have stopsLast : Stops (mark :: ends) remaining := stops.mono (List.subset_cons_self _ _)
  have split : joined mark ((first :: rest).map Node.tokens) ++ remaining =
      first.tokens ++
        (rest.flatMap (fun node => .punctuation mark :: node.tokens) ++ remaining) := by
    rw [List.map_cons, joined, List.flatMap_map, List.append_assoc]
  have stopsHere :
      Stops (mark :: ends)
        (rest.flatMap (fun node => .punctuation mark :: node.tokens) ++ remaining) := by
    cases rest with
    | nil => exact stopsLast
    | cons second rest => exact stops_mark List.mem_cons_self _
  have enough : rest.length ≤
      (rest.flatMap (fun node => .punctuation mark :: node.tokens) ++ remaining).length := by
    have each := length_le_flatMap mark (rest.map Node.tokens)
    rw [List.flatMap_map, List.length_map] at each
    rw [List.length_append]
    exact Nat.le_add_right_of_le each
  rw [split]
  refine (here stopsHere).bind ?_
  rintro _ rfl
  refine Leads.turns.bind ?_
  rintro _ rfl
  refine (Leads.following (stops.head?_ne last)
    (fun node among tail following => ?_) enough).bind ?_
  · refine later node among ?_
    rcases following with next | rfl
    · intro token found
      obtain rfl := Option.some.inj (next.symm.trans found)
      exact .inr ⟨mark, List.mem_cons_self, rfl⟩
    · exact stopsLast
  · rintro _ rfl
    exact finished

end

section

variable {primary step : Parse Node} {node : Node} {tokens remaining : List Token}

/-- Before anything but the mark, one type stands alone. -/
theorem leads_alone {mark : Punctuation} {finish : Node → List Node → Parse Node}
    (ends : remaining.head? ≠ some (.punctuation mark))
    (reads : Leads step tokens (· = node) remaining)
    (finished : Leads (finish node []) remaining (· = node) remaining) :
    Leads (do
        let first ← step
        let others ← Parse.following mark step (← Parse.turns)
        finish first others) tokens (· = node) remaining := by
  have nothing (turns : Nat) :
      Leads (Parse.following mark step turns) remaining (· = []) remaining := by
    cases turns with
    | zero => exact .pure rfl
    | succ turns =>
        refine (Leads.eatMark_of_ne ends).bind ?_
        rintro _ rfl
        exact .pure rfl
  refine reads.bind ?_
  rintro _ rfl
  refine Leads.turns.bind fun turns _ => (nothing turns).bind ?_
  rintro _ rfl
  exact finished

/-- Without brackets behind it, a primary type stands for itself. -/
theorem leads_postfixType_alone (noBrackets : remaining.head? ≠ some (.punctuation .closedBrackets))
    (reads : Leads primary tokens (· = node) remaining) :
    Leads (postfixType primary) tokens (· = node) remaining := by
  refine reads.bind ?_
  rintro _ rfl
  refine Leads.turns.bind fun turns _ => ?_
  cases turns with
  | zero => exact .pure rfl
  | succ turns =>
      refine (Leads.eatMark_of_ne noBrackets).bind ?_
      rintro _ rfl
      exact .pure rfl

/-- A type with its brackets is a whole type where neither an intersection nor a union goes on. -/
theorem leads_unionType_alone (noQuestion : tokens.head? ≠ some (.punctuation .question))
    (noAmpersand : remaining.head? ≠ some (.punctuation .ampersand))
    (noPipe : remaining.head? ≠ some (.punctuation .pipe))
    (reads : Leads (postfixType primary) tokens (· = node) remaining) :
    Leads (unionType primary) tokens (· = node) remaining := by
  have member : Leads (intersectionType primary) tokens (· = node) remaining :=
    Leads.current.bind fun lexeme _ => leads_alone noAmpersand reads (.pure rfl)
  refine Leads.current.bind fun lexeme _ => (Leads.eatMark_of_ne noQuestion).bind ?_
  rintro _ rfl
  exact leads_alone noPipe member (.pure rfl)

end

variable {primary : Parse Node} {node : Node} {members : List Node}

/-- No brackets stand behind a printed type. -/
theorem reads_postfixType (reads : ReadsBack primary primaryEnds node) :
    ReadsBack (postfixType primary) primaryEnds node := by
  intro remaining stops
  exact leads_postfixType_alone (stops.head?_ne (by decide)) (reads stops)

theorem reads_intersectionType (reads : ReadsBack primary primaryEnds node) :
    ReadsBack (intersectionType primary) memberEnds node := by
  intro remaining stops
  have tokens : node.tokens = joined .ampersand ([node].map Node.tokens) := by simp [joined]
  rw [tokens]
  exact Leads.current.bind fun lexeme _ => leads_separated
    (List.forall_mem_singleton.mpr (reads_postfixType reads)) (by decide) stops (.pure rfl)

theorem exists_cons_cons (several : 2 ≤ members.length) :
    ∃ first second rest, members = first :: second :: rest := by
  obtain _ | ⟨first, _ | ⟨second, rest⟩⟩ := members
  · exact absurd several (by simp)
  · exact absurd several (by simp)
  · exact ⟨first, second, rest, rfl⟩

theorem reads_intersection {kind : StructKind} (several : 2 ≤ members.length)
    (structs : ∀ member ∈ members, ∃ properties, member = .struct kind properties)
    (each : ∀ member ∈ members, ReadsBack primary primaryEnds member) :
    ReadsBack (intersectionType primary) memberEnds (.intersection members kind) := by
  intro remaining stops
  rw [Node.tokens, Node.tokensOfAll_eq_map]
  have built := Node.intersectionOf_of_structs several structs
  obtain ⟨first, second, rest, rfl⟩ := exists_cons_cons several
  refine Leads.current.bind fun lexeme _ => leads_separated
    (fun member among => reads_postfixType (each member among)) (by decide) stops ?_
  exact Leads.located lexeme built

theorem reads_unionType (opens : Opens node.tokens)
    (reads : ReadsBack (intersectionType primary) memberEnds node) :
    ReadsBack (unionType primary) typeEnds node := by
  intro remaining stops
  have noQuestion := opens.head?_ne remaining .question
  have tokens : node.tokens = joined .pipe ([node].map Node.tokens) := by simp [joined]
  rw [tokens] at noQuestion ⊢
  refine Leads.current.bind fun lexeme _ => (Leads.eatMark_of_ne noQuestion).bind ?_
  rintro _ rfl
  exact leads_separated (List.forall_mem_singleton.mpr reads) (by decide) stops (.pure rfl)

/-- Members that are no unions stand for themselves. -/
theorem flatMap_flattened (flat : ∀ member ∈ members, member.isUnion = false) :
    members.flatMap flattened = members := by
  induction members with
  | nil => rfl
  | cons member rest ih =>
      obtain ⟨here, later⟩ := List.forall_mem_cons.mp flat
      have alone : flattened member = [member] := by
        cases member <;> first | rfl | cases here
      rw [List.flatMap_cons, alone, ih later]
      rfl

/-- Several members make a union with the discriminator inferred for them. -/
theorem unionNode_eq_ok (several : 2 ≤ members.length) :
    unionNode members = .ok (.union members (Discriminator.infer? members)) := by
  have enough : ¬ members.length < 2 := by omega
  unfold unionNode
  split
  next discriminator inferred =>
    have known : (discriminator.arms.find? fun arm => members.length ≤ arm.2) = none := by
      rw [List.find?_eq_none]
      intro arm among
      have position := (Discriminator.separates_of_infer? inferred).arms.mem_iff.mp
        (List.mem_map_of_mem among)
      rw [List.mem_range] at position
      simpa using position
    rw [Node.discriminatedUnionOf, if_neg enough, known, inferred]
  next nothing => rw [Node.unionOf, if_neg enough, nothing]

theorem reads_union {discriminator : Option Discriminator} (several : 2 ≤ members.length)
    (flat : ∀ member ∈ members, member.isUnion = false)
    (inferred : discriminator = Discriminator.infer? members)
    (opens : Opens (Node.union members discriminator).tokens)
    (each : ∀ member ∈ members, ReadsBack (intersectionType primary) memberEnds member) :
    ReadsBack (unionType primary) typeEnds (.union members discriminator) := by
  intro remaining stops
  have noQuestion := opens.head?_ne remaining .question
  rw [Node.tokens, Node.tokensOfAll_eq_map] at noQuestion ⊢
  have built : unionNode (members.flatMap flattened) = .ok (.union members discriminator) := by
    rw [flatMap_flattened flat, unionNode_eq_ok several, inferred]
  obtain ⟨first, second, rest, rfl⟩ := exists_cons_cons several
  refine Leads.current.bind fun lexeme _ => (Leads.eatMark_of_ne noQuestion).bind ?_
  rintro _ rfl
  refine leads_separated each (by decide) stops ?_
  exact Leads.located lexeme built

/-! ## All types -/

variable (parser : Parser) (levels : Nat)

/-- The primary types that a parser reads with a number of levels left. -/
def primaryWithin (site : Site) : Parse Node :=
  match levels with
  | 0 => Parse.fail (.nestedTooDeep parser.maxDepth)
  | levels + 1 => primaryBody parser.rules (parser.typeWithin levels) site

theorem typeWithin_eq_unionType :
    parser.typeWithin levels site = unionType (parser.primaryWithin levels site) := by
  cases levels <;> rfl

/-- Where a node is read back: a struct as a primary type, any node but a union as a member of one,
and every node as a whole type. -/
structure ReadsWithin (site : Site) (node : Node) : Prop where
  struct : ∀ kind properties, node = .struct kind properties →
    ReadsBack (parser.primaryWithin levels site) primaryEnds node
  member : node.isUnion = false →
    ReadsBack (intersectionType (parser.primaryWithin levels site)) memberEnds node
  type : ReadsBack (parser.typeWithin levels site) typeEnds node

variable {parser levels}

theorem ReadsWithin.of_primary (opens : Opens node.tokens)
    (reads : ReadsBack (parser.primaryWithin levels site) primaryEnds node) :
    parser.ReadsWithin levels site node where
  struct _ _ _ := reads
  member _ := reads_intersectionType reads
  type := parser.typeWithin_eq_unionType levels ▸
    reads_unionType opens (reads_intersectionType reads)

/-- A node that is read by a rule of its own. -/
theorem ReadsWithin.of_rule {rule : Rule} (opens : Opens node.tokens)
    (chosen : ∀ remaining, Stops primaryEnds remaining →
      Chosen parser.extensions site (node.tokens ++ remaining) rule)
    (reads : ReadsBack (rule.read (parser.typeWithin levels) site) primaryEnds node) :
    parser.ReadsWithin (levels + 1) site node :=
  .of_primary opens (reads_primaryBody opens chosen reads)

/-- Built-in types are read on any level. -/
theorem readsWithin_builtIn (kind : BuiltIn) :
    parser.ReadsWithin (levels + 1) site (.builtIn kind) := by
  have readable : Node.Readable (.builtIn kind) := .leaf trivial rfl
  have opens := Node.opens_tokens readable
  by_cases int : kind = .int
  · subst int
    exact .of_rule opens (fun _ _ => chosen_int) reads_int
  · exact .of_rule opens (fun _ _ => chosen_keyword int) (reads_keyword int)

theorem readsWithin_literal {value : Literal} (opens : Opens (Node.literal value).tokens) :
    parser.ReadsWithin (levels + 1) site (.literal value) := by
  cases value with
  | enumCase =>
      obtain ⟨_, _, nothing, _⟩ := opens
      cases nothing
  | _ => exact .of_rule opens (fun _ _ => chosen_literal rfl) (reads_literal rfl rfl)

/-- In braces behind `array`, the first element of a tuple is no key. -/
theorem chosen_tuple {elements : List Node} (some_elements : elements ≠ [])
    (opens : ∀ element ∈ elements, Opens element.tokens) (remaining : List Token) :
    Chosen others site ((Node.tuple elements).tokens ++ remaining) arrayLike := by
  rw [Node.tokens, Node.tokensOfAll_eq_map, List.append_assoc, List.append_assoc]
  cases elements with
  | nil => exact absurd rfl some_elements
  | cons first rest =>
      refine chosen_arrayLike_of_tuple fun mark key => ?_
      change (joined .comma _ ++ .punctuation .closeBrace :: remaining)[1]? ≠ _
      rw [joined_append_closeBrace]
      exact (opens first List.mem_cons_self).second_ne (stops_behindFirst.mono (by decide)) key

theorem chosen_structTokens {kind : StructKind} {properties : List (Property Node)}
    (some_properties : properties ≠ []) (remaining : List Token) :
    Chosen others site ((Node.struct kind properties).tokens ++ remaining) Rule.struct := by
  rw [Node.tokens, Node.tokensOfEach_eq_map, List.append_assoc, List.append_assoc]
  exact chosen_struct fun cursor start => atStruct_of_properties some_properties start

/-- A readable node is read back within as many levels as its types stand within one another. -/
theorem readsWithin {node : Node} (readable : node.Readable) (enough : node.nesting ≤ levels) :
    parser.ReadsWithin levels site node := by
  induction node using Node.induction_on_children generalizing levels with
  | step node ih =>
      have here := readable.here
      have opens := Node.opens_tokens readable
      have part {levels : Nat} (child : Node) (member : child ∈ node.children)
          (enough : child.nesting ≤ levels) : parser.ReadsWithin levels site child :=
        ih child member (readable.of_mem_children member) enough
      have opensPart (child : Node) (member : child ∈ node.children) : Opens child.tokens :=
        Node.opens_tokens (readable.of_mem_children member)
      cases levels with
      | zero => exact absurd enough (Nat.not_le_of_lt (Node.nesting_pos readable))
      | succ levels =>
          cases node with
          | builtIn kind => exact readsWithin_builtIn kind
          | literal value => exact readsWithin_literal opens
          | list item =>
              have inner := part item (List.mem_singleton.mpr rfl) (Nat.le_of_succ_le_succ enough)
              exact .of_rule opens (fun _ _ => chosen_arrayLike_of_angle (by decide))
                (reads_list inner.type)
          | record item =>
              have itemEnough : item.nesting ≤ levels := Nat.le_of_succ_le_succ enough
              have inner := part item (List.mem_singleton.mpr rfl) itemEnough
              -- The key stands on the level of the item, which takes a level itself.
              have string : parser.ReadsWithin levels site (.builtIn .string) := by
                have itemReadable := readable.of_mem_children (List.mem_singleton.mpr rfl)
                have positive := Nat.lt_of_lt_of_le (Node.nesting_pos itemReadable) itemEnough
                cases levels with
                | zero => exact absurd positive (Nat.lt_irrefl 0)
                | succ levels => exact readsWithin_builtIn .string
              exact .of_rule opens (fun _ _ => chosen_arrayLike_of_angle (by decide))
                (reads_record inner.type string.type)
          | tuple elements =>
              have elementsEnough : Node.nestingOfAll elements ≤ levels :=
                Nat.le_of_succ_le_succ enough
              refine .of_rule opens (fun remaining _ => chosen_tuple here opensPart remaining)
                (reads_tuple opensPart (fun element among => ?_) here)
              exact (part element among
                (Nat.le_trans (Node.nesting_le_of_mem among) elementsEnough)).type
          | struct kind properties =>
              obtain ⟨some_properties, ascending, each⟩ := here
              have propertiesEnough : Node.nestingOfEach properties ≤ levels :=
                Nat.le_of_succ_le_succ enough
              have distinct : (properties.map Property.name).Nodup :=
                ascending.imp String.ne_of_lt
              refine .of_rule opens
                (fun remaining _ => chosen_structTokens some_properties remaining)
                (reads_struct (fun property among => (each property among).1)
                  (fun property among => ?_) some_properties distinct)
              exact (part property.node (List.mem_map_of_mem among)
                (Nat.le_trans (Node.nesting_le_of_mem_properties among) propertiesEnough)).type
          | union members discriminator =>
              obtain ⟨several, flat, inferred⟩ := here
              refine ⟨nofun, nofun, ?_⟩
              rw [typeWithin_eq_unionType]
              refine reads_union several flat inferred opens fun member among => ?_
              exact (part member among
                (Nat.le_trans (Node.nesting_le_of_mem among) enough)).member (flat member among)
          | intersection members kind =>
              obtain ⟨several, structs⟩ := here
              have operands (member : Node) (among : member ∈ members) :
                  ReadsBack (parser.primaryWithin (levels + 1) site) primaryEnds member := by
                obtain ⟨properties, same⟩ := structs member among
                exact (part member among
                  (Nat.le_trans (Node.nesting_le_of_mem among) enough)).struct _ _ same
              have reads := reads_intersection several structs operands
              refine ⟨nofun, fun _ => reads, ?_⟩
              rw [typeWithin_eq_unionType]
              exact reads_unionType opens reads
          | enumeration | dateTime | constrained | cast | branded | named | ref => cases here

/-- A type up to the end of the input. -/
theorem leads_complete {types : TypeReader} (reads : ReadsBack (types site) typeEnds node) :
    Leads (types.complete site) (node.tokens ++ [Token.endOfInput]) (· = node) [.endOfInput] := by
  have ends : Stops typeEnds [.endOfInput] := by
    rintro token ⟨⟩
    exact .inl rfl
  refine (reads ends).bind ?_
  rintro _ rfl
  refine Leads.get.bind fun cursor start => ?_
  have done : cursor.atEnd = true := by
    rw [Cursor.atEnd, cursor.token_current_eq, start]
    rfl
  rw [done]
  exact .pure rfl

/-- Every readable node whose types the parser has levels for is what its canonical form is parsed
to, whatever names and additional rules the parser knows. -/
theorem parse_canonical (parser : Parser) {node : Node} (readable : node.Readable)
    (enough : node.nesting ≤ parser.maxDepth) : parser.parse node.canonical = .ok node := by
  obtain ⟨lexemes, tokenized, start⟩ := Node.tokenize_canonical readable
  have reads : ReadsBack (parser.typeWithin parser.maxDepth (parser.site {})) typeEnds node :=
    (readsWithin readable enough).type
  have here : Cursor.tokens ⟨node.canonical, lexemes⟩ = node.tokens ++ [Token.endOfInput] := start
  obtain ⟨result, after, run, same, _⟩ := leads_complete reads here
  have input : Cursor.ofInput node.canonical = .ok ⟨node.canonical, lexemes⟩ := by
    rw [Cursor.ofInput, tokenized]
    rfl
  rw [parse, parseIn, TypeReader.readText, input]
  simp only [EStateM.run, run, same]

/-- Two structs that are told apart by a property, with a name in quotes and a float. -/
def measurements : List Node :=
  [.struct .array
    [Node.required "kind" (.literal (.string "point")),
      ⟨"x y", .tuple [.builtIn .float, .literal (.float Binary64.one)], true, .both⟩],
    .struct .array
      [Node.required "kind" (.literal (.string "run")),
        Node.required "steps" (.list (.record (.builtIn .int)))]]

/-- The measurements are written and read back with the discriminator they have. -/
theorem parse_canonical_of_measurements :
    let node := Node.union measurements
      (some { field := "kind", arms := [("\"point\"", 0), ("\"run\"", 1)] })
    node.Readable ∧ node.nesting ≤ 64 ∧
      Parser.parse { registry := {} } node.canonical = .ok node := by
  intro node
  have leaf (kind : BuiltIn) : Node.Readable (.builtIn kind) := .leaf trivial rfl
  have text (value : String) : Node.Readable (.literal (.string value)) := .leaf trivial rfl
  have unit : Node.Readable (.literal (.float Binary64.one)) :=
    .leaf rfl rfl
  have two {holds : Node → Prop} {first second : Node} (left : holds first)
      (right : holds second) : ∀ child ∈ [first, second], holds child :=
    List.forall_mem_cons.mpr ⟨left, List.forall_mem_singleton.mpr right⟩
  have pair : Node.Readable (.tuple [.builtIn .float, .literal (.float Binary64.one)]) :=
    .intro (List.cons_ne_nil _ _) (two (leaf .float) unit)
  have steps : Node.Readable (.list (.record (.builtIn .int))) :=
    .intro trivial (List.forall_mem_singleton.mpr
      (.intro trivial (List.forall_mem_singleton.mpr (leaf .int))))
  have point : Node.Readable (measurements[0]) :=
    .intro ⟨List.cons_ne_nil _ _, by decide,
      List.forall_mem_cons.mpr ⟨⟨rfl, rfl⟩, List.forall_mem_singleton.mpr ⟨rfl, rfl⟩⟩⟩
      (two (text "point") pair)
  have run : Node.Readable (measurements[1]) :=
    .intro ⟨List.cons_ne_nil _ _, by decide,
      List.forall_mem_cons.mpr ⟨⟨rfl, rfl⟩, List.forall_mem_singleton.mpr ⟨rfl, rfl⟩⟩⟩
      (two (text "run") steps)
  have readable : node.Readable :=
    .intro ⟨by decide, by decide, by decide +kernel⟩ (two point run)
  have enough : node.nesting ≤ 64 := by decide
  exact ⟨readable, enough, parse_canonical { registry := {} } readable enough⟩

end Parser

end Schemata
