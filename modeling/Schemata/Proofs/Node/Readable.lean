import Schemata.Proofs.Node.Canonical
import Schemata.Proofs.Node.Children
import Schemata.Proofs.Token.Spelling

/-!
# Nodes that are written as type strings

The canonical form of some nodes is a type string of its own.  Such a node is made of types without
parts, literals, lists, maps, tuples, structs, intersections of structs and unions.  Its canonical
form spells its tokens.
-/

namespace Schemata

open List (Forall₂)

def Literal.tokens : Literal → List Token
  | .bool value => [.bool value]
  | .int value => [.integer value]
  | .float value => [.float value]
  | .string value => [.string value]
  | .enumCase .. => []

namespace Node

/-- The token of a property name, which is a word unless it needs quotes. -/
def keyToken (name : String) : Token :=
  if isPlainKey name then .word name else .string name

mutual

/-- The tokens that the canonical form of a node spells. -/
def tokens : Node → List Token
  | .builtIn kind => [.word kind.keyword]
  | .literal value => value.tokens
  | .list item => [.word "list", .punctuation .less] ++ tokens item ++ [.punctuation .greater]
  | .record item =>
      [.word "array", .punctuation .less, .word "string", .punctuation .comma] ++ tokens item ++
        [.punctuation .greater]
  | .tuple elements =>
      [.word "array", .punctuation .openBrace] ++ Token.joined .comma (tokensOfAll elements) ++
        [.punctuation .closeBrace]
  | .struct kind properties =>
      [.word kind.keyword, .punctuation .openBrace] ++
        Token.joined .comma (tokensOfEach properties) ++ [.punctuation .closeBrace]
  | .union members _ => Token.joined .pipe (tokensOfAll members)
  | .intersection members _ => Token.joined .ampersand (tokensOfAll members)
  | _ => []

def tokensOfAll : List Node → List (List Token)
  | [] => []
  | node :: rest => tokens node :: tokensOfAll rest

def tokensOfEach : List (Property Node) → List (List Token)
  | [] => []
  | ⟨name, node, optional, _⟩ :: rest =>
      (keyToken name :: ((if optional then [.punctuation .question] else []) ++
        .punctuation .colon :: tokens node)) :: tokensOfEach rest

end

mutual

/-- The number of types that stand within one another at most.  Unions and intersections stand on
the level of their members. -/
def nesting : Node → Nat
  | .list item => nesting item + 1
  | .record item => nesting item + 1
  | .tuple elements => nestingOfAll elements + 1
  | .struct _ properties => nestingOfEach properties + 1
  | .union members _ => nestingOfAll members
  | .intersection members _ => nestingOfAll members
  | _ => 1

def nestingOfAll : List Node → Nat
  | [] => 0
  | node :: rest => max (nesting node) (nestingOfAll rest)

def nestingOfEach : List (Property Node) → Nat
  | [] => 0
  | ⟨_, node, _, _⟩ :: rest => max (nesting node) (nestingOfEach rest)

end

/-- What has to hold at a node for its canonical form to be its type string. -/
def IsReadable : Node → Prop
  | .builtIn _ => True
  | .literal (.float value) => value.isFinite = true
  | .literal (.enumCase ..) => False
  | .literal _ => True
  | .list _ | .record _ => True
  | .tuple elements => elements ≠ []
  | .struct _ properties =>
      properties ≠ [] ∧ (properties.map Property.name).Pairwise (· < ·) ∧
        ∀ property ∈ properties, property.direction = .both ∧
          Token.ofWord property.name.toList = .word property.name
  | .union members discriminator =>
      2 ≤ members.length ∧ (∀ member ∈ members, member.isUnion = false) ∧
        discriminator = Discriminator.infer? members
  | .intersection members kind =>
      2 ≤ members.length ∧ ∀ member ∈ members, ∃ properties, member = .struct kind properties
  | _ => False

def Readable : Node → Prop :=
  Everywhere IsReadable

theorem tokensOfAll_eq_map (nodes : List Node) : tokensOfAll nodes = nodes.map tokens := by
  induction nodes with
  | nil => rfl
  | cons node rest ih => exact congrArg (tokens node :: ·) ih

def propertyTokens (property : Property Node) : List Token :=
  keyToken property.name :: ((if property.optional then [.punctuation .question] else []) ++
    .punctuation .colon :: property.node.tokens)

theorem tokensOfEach_eq_map (properties : List (Property Node)) :
    tokensOfEach properties = properties.map propertyTokens := by
  induction properties with
  | nil => rfl
  | cons property rest ih => exact congrArg (propertyTokens property :: ·) ih

theorem nesting_le_of_mem {nodes : List Node} {node : Node} (among : node ∈ nodes) :
    node.nesting ≤ nestingOfAll nodes := by
  induction nodes with
  | nil => cases among
  | cons first rest ih =>
      have here : nestingOfAll (first :: rest) = max first.nesting (nestingOfAll rest) := rfl
      rw [here]
      rcases List.mem_cons.mp among with rfl | later
      · exact Nat.le_max_left _ _
      · exact Nat.le_trans (ih later) (Nat.le_max_right _ _)

theorem nesting_le_of_mem_properties {properties : List (Property Node)}
    {property : Property Node} (among : property ∈ properties) :
    property.node.nesting ≤ nestingOfEach properties := by
  induction properties with
  | nil => cases among
  | cons first rest ih =>
      have here : nestingOfEach (first :: rest) =
          max first.node.nesting (nestingOfEach rest) := rfl
      rw [here]
      rcases List.mem_cons.mp among with rfl | later
      · exact Nat.le_max_left _ _
      · exact Nat.le_trans (ih later) (Nat.le_max_right _ _)

/-! ## The canonical form -/

open Token

/-- A word that is neither a boolean nor a number spells itself. -/
theorem covers_name {name : String} (some_chars : name.toList ≠ [])
    (each : name.toList.all isWordChar = true)
    (known : ofWord name.toList = .word name) : Covers name.toList [.word name] :=
  known ▸ covers_word some_chars (List.all_eq_true.mp each)

theorem covers_keyword (kind : BuiltIn) : Covers kind.keyword.toList [.word kind.keyword] := by
  cases kind <;> exact covers_name (by decide) (by decide) rfl

theorem covers_structKeyword (kind : StructKind) :
    Covers kind.keyword.toList [.word kind.keyword] := by
  cases kind <;> exact covers_name (by decide) (by decide) rfl

theorem covers_literal {value : Literal} (readable : (Node.literal value).IsReadable) :
    Covers value.display.toList value.tokens := by
  cases value with
  | bool value =>
      cases value <;> exact covers_word (by decide) (List.all_eq_true.mp (by decide))
  | int value =>
      have text : (Literal.int value).display.toList = Text.Decimal.ofInt value.toInt :=
        Text.Decimal.toList_toString _
      rw [text, Literal.tokens, ← ofWord_ofInt]
      refine covers_word ?_ fun char among => isWordChar_of_mem_ofInt among
      intro nothing
      have digits := Text.Decimal.integer?_ofInt value.toInt
      rw [nothing] at digits
      cases digits
  | float value =>
      have finite : value.isFinite = true := readable
      have text : (Literal.float value).display.toList = value.toChars .typeText :=
        String.toList_ofList
      rw [text, Literal.tokens, ← ofWord_toChars finite]
      refine covers_word ?_ fun char among =>
        isWordChar_of_isNumeral (Binary64.isNumeral_of_mem_toChars finite char among)
      intro nothing
      have read := Binary64.ofDecimalText?_toChars .typeText finite
      rw [nothing] at read
      cases read
  | string value =>
      have text : (Literal.string value).display.toList = Text.Quoted.encode value.toList :=
        String.toList_ofList
      have quoted := (delimits_quoted value.toList).covers
      rw [String.ofList_toList] at quoted
      rw [text]
      exact quoted
  | enumCase enumeration case => cases readable

/-- A property name spells a word, or a string in quotes. -/
theorem covers_key {name : String} (known : ofWord name.toList = .word name) :
    Covers (displayKey name).toList [keyToken name] := by
  unfold displayKey keyToken
  split
  next plain =>
    simp only [isPlainKey, Bool.and_eq_true, Bool.not_eq_true', List.all_eq_true, Bool.or_eq_true,
      beq_iff_eq] at plain
    obtain ⟨some_chars, chars⟩ := plain
    refine covers_name ?_ (List.all_eq_true.mpr fun char among => ?_) known
    · intro nothing
      rw [String.toList_eq_nil_iff] at nothing
      rw [nothing] at some_chars
      cases some_chars
    · rcases chars char among with (alphanumeric | rfl) | rfl
      · exact isWordChar_of_isAlphanumeric alphanumeric
      · decide
      · decide
  · have quoted := (delimits_quoted name.toList).covers
    rw [String.ofList_toList] at quoted
    rw [String.toList_ofList]
    exact quoted

theorem covers_property {property : Property Node} (both : property.direction = .both)
    (known : ofWord property.name.toList = .word property.name)
    (node : Covers property.node.canonical.toList property.node.tokens) :
    Covers (propertyText property).toList (propertyTokens property) := by
  have key := covers_key known
  have between : Delimits ((if property.optional then "?" else "") ++ ": ").toList
      ((if property.optional then [Token.punctuation .question] else []) ++
        [Token.punctuation .colon]) := by
    split
    · exact (delimits_mark .question (by decide)).append delimits_colon
    · exact delimits_colon
  have all := key.append between node
  simp only [propertyText, both, directionMark, String.toList_append] at all ⊢
  simpa [propertyTokens] using all

/-- Texts of several parts with a separator between them spell the tokens of the parts. -/
theorem covers_join {α : Type} {separator : String} {mark : Punctuation}
    (between : Delimits separator.toList [.punctuation mark]) (text : α → String)
    (tokens : α → List Token) {items : List α} (some_items : items ≠ [])
    (each : ∀ item ∈ items, Covers (text item).toList (tokens item)) :
    Covers (String.intercalate separator (items.map text)).toList
      (joined mark (items.map tokens)) := by
  rw [String.toList_intercalate, List.map_map]
  exact covers_intercalate between some_items each

/-- A text that holds something between two marks behind a word. -/
theorem covers_bracketed {text word : String} {opening closing : Punctuation} {inner : List Char}
    {tokens : List Token} (name : Covers word.toList [.word word])
    (opens : Delimits opening.text.toList [.punctuation opening]) (inside : Covers inner tokens)
    (closes : Delimits closing.text.toList [.punctuation closing])
    (written : text.toList =
      word.toList ++ opening.text.toList ++ inner ++ closing.text.toList) :
    Covers text.toList
      ([Token.word word, .punctuation opening] ++ tokens ++ [Token.punctuation closing]) := by
  have all := (name.append opens inside).close closes
  rw [written]
  simpa using all

/-- A struct is written with its properties in the order in which they are listed, which is that of
their names. -/
theorem sortedProperties_of_ascending {properties : List (Property Node)}
    (ascending : (properties.map Property.name).Pairwise (· < ·)) :
    sortedProperties properties = properties := by
  rw [List.pairwise_map] at ascending
  refine List.mergeSort_of_pairwise (ascending.imp fun below => ?_)
  simpa using fun above => String.lt_irrefl _ (String.lt_trans below above)

/-- The canonical form of a readable node spells its tokens. -/
theorem covers_canonical {node : Node} (readable : node.Readable) :
    Covers node.canonical.toList node.tokens := by
  induction node using induction_on_children with
  | step node ih =>
      have here := readable.here
      have part (child : Node) (member : child ∈ node.children) :
          Covers child.canonical.toList child.tokens :=
        ih child member (readable.of_mem_children member)
      have list : Covers "list".toList [.word "list"] := covers_name (by decide) (by decide) rfl
      have array : Covers "array".toList [.word "array"] := covers_name (by decide) (by decide) rfl
      have string : Covers "string".toList [.word "string"] := covers_keyword .string
      have less := delimits_mark .less (by decide)
      have greater := delimits_mark .greater (by decide)
      have openBrace := delimits_mark .openBrace (by decide)
      have closeBrace := delimits_mark .closeBrace (by decide)
      cases node with
      | builtIn kind => exact covers_keyword kind
      | literal value => exact covers_literal here
      | list item =>
          have inner := part item (List.mem_singleton.mpr rfl)
          refine covers_bracketed list less inner greater ?_
          have split : "list<".toList = "list".toList ++ Punctuation.less.text.toList := by decide
          rw [canonical_list, String.toList_append, String.toList_append, split]
          rfl
      | record item =>
          have inner := string.append delimits_comma (part item (List.mem_singleton.mpr rfl))
          refine covers_bracketed array less inner greater ?_
          have split : "array<string, ".toList = "array".toList ++ Punctuation.less.text.toList ++
              ("string".toList ++ ", ".toList) := by decide
          rw [canonical_record, String.toList_append, String.toList_append, split]
          simp only [List.append_assoc]
          rfl
      | tuple elements =>
          have inner := covers_join delimits_comma canonical tokens here part
          rw [tokens, tokensOfAll_eq_map]
          refine covers_bracketed array openBrace inner closeBrace ?_
          have split : "array\x7b".toList =
              "array".toList ++ Punctuation.openBrace.text.toList := by decide
          rw [canonical_tuple, String.toList_append, String.toList_append, split]
          rfl
      | struct kind properties =>
          obtain ⟨some_properties, ascending, each⟩ := here
          have inner := covers_join delimits_comma propertyText propertyTokens some_properties
            fun property member =>
              covers_property (each property member).1 (each property member).2
                (part property.node (List.mem_map_of_mem member))
          rw [tokens, tokensOfEach_eq_map]
          refine covers_bracketed (covers_structKeyword kind) openBrace inner closeBrace ?_
          rw [canonical_struct, sortedProperties_of_ascending ascending]
          simp only [String.toList_append]
          rfl
      | union members discriminator =>
          have some_members : members ≠ [] := by
            rintro rfl
            exact absurd here.1 (by decide)
          rw [canonical_union, tokens, tokensOfAll_eq_map]
          exact covers_join (delimits_mark .pipe (by decide)) canonical tokens some_members part
      | intersection members kind =>
          obtain ⟨several, structs⟩ := here
          have some_members : members ≠ [] := by
            rintro rfl
            exact absurd several (by decide)
          rw [canonical_intersection, tokens, tokensOfAll_eq_map]
          refine covers_join (delimits_mark .ampersand (by decide)) operandText tokens some_members
            fun member among => ?_
          obtain ⟨properties, rfl⟩ := structs member among
          exact part _ among
      | enumeration | dateTime | constrained | cast | branded | named | ref => cases here

/-- The tokens of the canonical form of a readable node. -/
theorem tokenize_canonical {node : Node} (readable : node.Readable) :
    ∃ lexemes, tokenize node.canonical = .ok lexemes ∧
      lexemes.map Lexeme.token = node.tokens ++ [Token.endOfInput] := by
  have spells := covers_canonical readable atBoundary_nil Spells.nil
  rw [List.append_nil, List.append_nil] at spells
  obtain ⟨lexemes, scanned, same⟩ := spells.scan (Nat.le_refl _) 0
  exact ⟨lexemes, congrArg (Except.mapError _) scanned, same⟩

end Node

end Schemata
