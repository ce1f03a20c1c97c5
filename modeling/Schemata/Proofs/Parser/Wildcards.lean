import Schemata.Proofs.Parser.PartingTypes
import Schemata.Proofs.Parser.PrintedTypes
import Schemata.Proofs.Registry.Constants
import Schemata.Proofs.Token.Classes

/-!
# Wildcards

The name of a class and the beginning of a name with a star behind it stand for all cases and
constants of the class whose names begin so: the cases in the order of their declaration, and the
constants behind them in the order of their names, each value once.  Constants of other classes do
not get in, whichever names they have.
-/

namespace Schemata

open Parse

/-! ## What a wildcard stands for -/

/-- Whether a value names no case of an enum or one that there is. -/
def Literal.isKnownBy (hasCase : String → String → Bool) : Literal → Bool
  | .enumCase enumeration case => hasCase enumeration case
  | _ => true

namespace Wildcard

/-- Some values, and behind them those of constants that are not there yet. -/
def collected (values : List Literal) (constants : List (String × Literal)) : List Literal :=
  constants.foldl (fun values entry =>
    if values.any (·.isEqual entry.2) then values else values ++ [entry.2]) values

/-- The type of one of several values. -/
def alternatives? : List Literal → Option Node
  | [] => none
  | [value] => some (.literal value)
  | values => some (.union (values.map .literal) none)

/-- What some cases and constants stand for.  There is nothing if no value is there, and if a
constant names a case that is not there. -/
def expansion? (hasCase : String → String → Bool) (cases : List Literal)
    (constants : List (String × Literal)) : Option Node :=
  if constants.all (·.2.isKnownBy hasCase) then alternatives? (collected cases constants) else none

end Wildcard

namespace Registration

open Wildcard

variable {steps : List Registration} {className start : String}

/-- Whether an enum was given a case in the end. -/
def hasCase (steps : List Registration) (enumeration case : String) : Bool :=
  (lastCases? steps enumeration).any (·.contains case)

/-- The constants that a class was given and whose names begin with a text, with their last values
and in the order of their names. -/
structure ListsConstants (steps : List Registration) (className start : String)
    (constants : List (String × Literal)) : Prop where
  ascending : (constants.map Prod.fst).Pairwise (· < ·)
  mem_iff : ∀ name value, (name, value) ∈ constants ↔
    start.toList <+: name.toList ∧ lastValue? steps className name = some value

/-- The cases of a class and its constants whose names begin with a text come to a type, or to none.
Which one it is depends on the registrations alone. -/
def ExpandsTo (steps : List Registration) (className start : String) (outcome : Option Node) :
    Prop :=
  ∃ constants, ListsConstants steps className start constants ∧
    outcome = expansion? (hasCase steps)
      (Rule.casesFrom className start.toList ((lastCases? steps className).getD [])) constants

/-- There is one such list of constants. -/
theorem ListsConstants.unique {left right : List (String × Literal)}
    (lists : ListsConstants steps className start left)
    (lists' : ListsConstants steps className start right) : left = right := by
  have found {left right : List (String × Literal)} {key : String} {value : Literal}
      (lists : ListsConstants steps className start left)
      (lists' : ListsConstants steps className start right)
      (here : Dict.get? left key = some value) : Dict.get? right key = some value := by
    have among := (lists.mem_iff key value).mp (Dict.mem_of_get?_eq_some here)
    have among' := (lists'.mem_iff key value).mpr among
    exact Dict.get?_of_mem (Dict.nodup_of_ascending lists'.ascending) among'
  apply Dict.eq_of_get? lists.ascending lists'.ascending
  intro key
  apply Option.ext
  intro value
  exact ⟨found lists lists', found lists' lists⟩

theorem ExpandsTo.unique {outcome outcome' : Option Node}
    (expands : ExpandsTo steps className start outcome)
    (expands' : ExpandsTo steps className start outcome') : outcome = outcome' := by
  obtain ⟨constants, lists, rfl⟩ := expands
  obtain ⟨constants', lists', rfl⟩ := expands'
  rw [lists.unique lists']

theorem listsConstants_constantsFrom (undivided : Undivided steps)
    (undivided' : ':' ∉ className.toList) :
    ListsConstants steps className start
      ((TypeRegistry.ofRegistrations steps).constantsFrom className start) := by
  have ascending : ((TypeRegistry.ofRegistrations steps).constants.map Prod.fst).Pairwise (· < ·) :=
    TypeRegistry.ascending_constants_ofRegistrations
  constructor
  · exact TypeRegistry.ascending_constantsFrom ascending
  · intro name value
    rw [TypeRegistry.mem_constantsFrom_iff ascending,
      TypeRegistry.constant?_ofRegistrations undivided undivided']

theorem hasCase_ofRegistrations :
    (TypeRegistry.ofRegistrations steps).hasCase = hasCase steps := by
  funext enumeration case
  rw [TypeRegistry.hasCase, TypeRegistry.enum?_ofRegistrations, hasCase]

end Registration

/-! ## The rule for constants -/

namespace Rule

open Wildcard

variable {site : Site} {lexeme : Lexeme} {tokens : List Token}

theorem leads_checkCase {value : Literal}
    (known : value.isKnownBy site.registry.hasCase = true) :
    Leads (checkCase site lexeme value) tokens (fun _ => True) tokens := by
  cases value with
  | enumCase enumeration case =>
      rw [Literal.isKnownBy] at known
      rw [checkCase, if_pos known]
      exact .pure trivial
  | _ => exact .pure trivial

theorem fails_checkCase {value : Literal}
    (unknown : ¬ value.isKnownBy site.registry.hasCase = true) :
    Fails (checkCase site lexeme value) tokens := by
  cases value with
  | enumCase enumeration case =>
      rw [Literal.isKnownBy] at unknown
      rw [checkCase, if_neg unknown]
      exact fails_failAt
  | _ => exact absurd rfl unknown

/-- Constants are added one by one unless one of them names a case that is not there. -/
theorem answers_addConstants (values : List Literal) (constants : List (String × Literal)) :
    Answers (addConstants site lexeme values constants) tokens tokens
      (if constants.all (·.2.isKnownBy site.registry.hasCase) then some (collected values constants)
        else none) := by
  induction constants generalizing values with
  | nil => exact Leads.pure rfl
  | cons entry rest ih =>
      rw [addConstants, List.all_cons]
      by_cases known : entry.2.isKnownBy site.registry.hasCase = true
      · rw [known, Bool.true_and, collected, List.foldl_cons]
        refine (leads_checkCase known).answers fun _ _ => ?_
        split
        · exact ih values
        · exact ih (values ++ [entry.2])
      · rw [Bool.not_eq_true] at known
        rw [known, Bool.false_and]
        exact (fails_checkCase (Bool.eq_false_iff.mp known)).bind

theorem answers_oneOf (pattern : String) (values : List Literal) :
    Answers (oneOf lexeme pattern values) tokens tokens (alternatives? values) := by
  match values with
  | [] => exact fails_failAt
  | [value] => exact Leads.pure rfl
  | first :: second :: rest =>
      have built : Node.unionOf ((first :: second :: rest).map .literal) =
          .ok (.union ((first :: second :: rest).map .literal) none) :=
        if_neg (by simp)
      exact Leads.located lexeme built

/-- A wildcard under a single candidate. -/
theorem answers_wildcard (classLexeme : Lexeme) (pattern className start : String) :
    Answers (wildcard site classLexeme lexeme pattern start.toList [className]) tokens tokens
      (expansion? site.registry.hasCase
        (casesFrom className start.toList ((site.registry.enum? className).getD []))
        (site.registry.constantsFrom className start)) := by
  rw [wildcard, String.ofList_toList, expansion?]
  generalize casesFrom className start.toList ((site.registry.enum? className).getD []) = cases
  generalize site.registry.constantsFrom className start = constants
  have added : Answers (addConstants site lexeme cases constants) tokens tokens _ :=
    answers_addConstants cases constants
  split at added
  next known =>
    rw [if_pos known]
    refine Leads.answers added ?_
    rintro values rfl
    split
    next nothing =>
      rw [Bool.and_eq_true, List.isEmpty_iff] at nothing
      rw [nothing.1]
      exact fails_failAt
    next => exact answers_oneOf _ _
  next unknown =>
    rw [if_neg unknown]
    exact Fails.bind added

/-- A word that can stand in front of a constant: an identifier that is no keyword of a type. -/
structure NamesClass (word : String) : Prop where
  some_chars : word.toList ≠ []
  each : ∀ char ∈ word.toList, Token.isWordChar char = true
  not_bool : word ≠ "true" ∧ word ≠ "false"
  not_number : ¬ Text.Decimal.IsNumber word.toList
  not_list : word ∉ listKeywords
  not_keyword : keywordType? word = none
  not_int : word ≠ "int"

/-- The class a word stands for without a namespace and imports.  A leading dot is no part of its
name. -/
def className (word : String) : String :=
  match word.toList with
  | '.' :: absolute => String.ofList absolute
  | _ => word

theorem mem_of_mem_className {word : String} {char : Char}
    (among : char ∈ (className word).toList) : char ∈ word.toList := by
  unfold className at among
  split at among
  next absolute dotted =>
    rw [String.toList_ofList] at among
    exact dotted ▸ List.mem_cons_of_mem _ among
  next => exact among

theorem candidates_eq_className (word : String) :
    ParsingContext.candidates {} word = [className word] := by
  by_cases absolute : ∃ rest, word.toList = '.' :: rest
  · obtain ⟨rest, dotted⟩ := absolute
    simp only [ParsingContext.candidates, className, dotted]
  · have same : className word = word := by
      unfold className
      split
      next rest dotted => exact absurd ⟨rest, dotted⟩ absolute
      next => rfl
    rw [same]
    unfold ParsingContext.candidates
    split
    next rest dotted => exact absurd ⟨rest, dotted⟩ absolute
    next => rfl

variable {word start : String} {remaining : List Token} {others : List Rule}

/-- In front of two colons, an identifier that is no keyword is the class of a constant. -/
theorem chosen_classConstant (names : NamesClass word) :
    Chosen others site (.word word :: .punctuation .doubleColon :: remaining) classConstant := by
  intro cursor start
  have seen : cursor.word? = some word := Cursor.word?_of_word start
  have colons : cursor.hasMarkAt 1 .doubleColon = true := by
    rw [Cursor.hasMarkAt_eq_true_iff, start]
    rfl
  have no_brace : cursor.hasMarkAt 1 .openBrace = false := by
    rw [Bool.eq_false_iff, Ne, Cursor.hasMarkAt_eq_true_iff, start]
    simp
  have no_list : ¬ arrayLike.applies site cursor = true := by
    simp [arrayLike, seen, names.not_list]
  have no_struct : ¬ struct.applies site cursor = true := by
    simp [struct, atStruct, no_brace]
  have no_keyword : ¬ keyword.applies site cursor = true := by
    simp [keyword, seen, names.not_keyword]
  have no_int : ¬ int.applies site cursor = true := by
    simp [int, Cursor.isWord, seen, names.not_int]
  have no_literal : ¬ literal.applies site cursor = true := by
    simp [literal, cursor.token_current_eq, start, literalOf?]
  have rules : builtIn ++ others =
      [arrayLike, struct, keyword, int, literal] ++ classConstant :: (builtIn.drop 6 ++ others) :=
    rfl
  rw [rules, List.find?_append, List.find?_eq_none.mpr]
  · have here : classConstant.applies site cursor = true := by
      simp [classConstant, seen, colons]
    exact find?_of_applies here
  · simp only [List.forall_mem_cons]
    exact ⟨no_list, no_struct, no_keyword, no_int, no_literal, List.forall_mem_nil _⟩

theorem beforeStar?_append_star (start : String) :
    beforeStar? (start ++ "*") = some start.toList := by
  have last : (start ++ "*").toList.reverse = '*' :: start.toList.reverse := by
    rw [String.toList_append]
    exact List.reverse_concat
  rw [beforeStar?, last]
  exact congrArg some (List.reverse_reverse _)

/-- The rule reads a wildcard as what the class has under the name that the word stands for. -/
theorem answers_classConstant (types : TypeReader) (bare : site.context = {})
    (word start : String) :
    Answers (classConstant.read types site)
      (.word word :: .punctuation .doubleColon :: .word (start ++ "*") :: remaining) remaining
      (expansion? site.registry.hasCase
        (casesFrom (className word) start.toList
          ((site.registry.enum? (className word)).getD []))
        (site.registry.constantsFrom (className word) start)) := by
  refine Leads.current.answers fun classLexeme _ => Leads.takeWord.answers ?_
  rintro _ rfl
  refine Leads.expectMark.answers fun _ _ => Leads.current.answers fun constLexeme _ =>
    Leads.takeWord.answers ?_
  rintro _ rfl
  rw [bare, candidates_eq_className]
  simp only [beforeStar?_append_star]
  exact answers_wildcard classLexeme _ _ _

end Rule

/-! ## Whole texts -/

namespace Parser

variable {primary : Parse Node} {tokens : List Token} {answer : Option Node}

/-- A primary type that is a whole text is the type of the text. -/
theorem answers_unionType (noQuestion : tokens.head? ≠ some (.punctuation .question))
    (answers : Answers primary tokens [.endOfInput] answer) :
    Answers (unionType primary) tokens [.endOfInput] answer := by
  cases answer with
  | some node =>
      have alone : Leads (postfixType primary) tokens (· = node) [.endOfInput] :=
        leads_postfixType_alone (by simp) answers
      exact leads_unionType_alone noQuestion (by simp) (by simp) alone
  | none =>
      have member : Fails (intersectionType primary) tokens :=
        Leads.current.fails fun _ _ => (Fails.bind answers).bind
      refine Leads.current.fails fun _ _ => (Leads.eatMark_of_ne noQuestion).fails ?_
      rintro _ rfl
      exact member.bind

/-- A primary type is what the rule for it reads. -/
theorem answers_primaryBody {rule : Rule} {others : List Rule} {types : TypeReader} {site : Site}
    {remaining : List Token} (noParen : tokens.head? ≠ some (.punctuation .openParen))
    (chosen : Rule.Chosen others site tokens rule)
    (answers : Answers (rule.read types site) tokens remaining answer) :
    Answers (primaryBody (Rule.builtIn ++ others) types site) tokens remaining answer := by
  refine (Leads.eatMark_of_ne noParen).answers ?_
  rintro _ rfl
  refine Leads.get.answers fun cursor start => ?_
  simp only [chosen cursor start]
  exact answers

/-- What is read of all tokens that a text spells is the type of the text. -/
theorem toOption_readText {types : TypeReader} {site : Site} {text : String}
    (spells : Token.Spells text.toList tokens)
    (answers : Answers (types site) (tokens ++ [Token.endOfInput]) [.endOfInput] answer) :
    (types.readText site text).toOption = answer := by
  cases answer with
  | some node => rw [TypeReader.readText_eq_ok_of_leads spells answers, Except.toOption]
  | none =>
      obtain ⟨cursor, input, start⟩ := Cursor.exists_of_spells spells
      obtain ⟨error, after, failed⟩ := answers start
      have whole : (types.complete site).run cursor = .error error after :=
        EStateM.bind_of_error failed
      rw [TypeReader.readText, input]
      simp only [whole]
      rfl

end Parser

namespace Token

variable {word start : String}

theorem ofWord_of_namesClass (names : Rule.NamesClass word) :
    ofWord word.toList = .word word := by
  have no_true : word.toList ≠ "true".toList := mt String.toList_injective names.not_bool.1
  have no_false : word.toList ≠ "false".toList := mt String.toList_injective names.not_bool.2
  rw [ofWord_of_not_isNumber names.not_number, if_neg no_true, if_neg no_false,
    String.ofList_toList]

/-- With a star behind it, a word is neither a boolean nor a number. -/
theorem ofWord_append_star (start : String) :
    ofWord (start ++ "*").toList = .word (start ++ "*") := by
  have star : '*' ∈ (start ++ "*").toList := by simp
  have no_number : ¬ Text.Decimal.IsNumber (start ++ "*").toList := by
    intro number
    rcases number.each _ star with digit | sign
    · exact absurd digit (by decide)
    · exact absurd sign (by decide)
  have other {word : String} (starless : '*' ∉ word.toList) : (start ++ "*").toList ≠ word.toList :=
    fun same => starless (same ▸ star)
  rw [ofWord_of_not_isNumber no_number, if_neg (other (by decide)), if_neg (other (by decide)),
    String.ofList_toList]

theorem spells_wildcard (names : Rule.NamesClass word)
    (each : ∀ char ∈ start.toList, isWordChar char = true) :
    Spells (word ++ "::" ++ start ++ "*").toList
      [.word word, .punctuation .doubleColon, .word (start ++ "*")] := by
  have front : Covers word.toList [.word word] :=
    ofWord_of_namesClass names ▸ covers_word names.some_chars names.each
  have back : Covers (start ++ "*").toList [.word (start ++ "*")] := by
    rw [← ofWord_append_star]
    apply covers_word
    · simp
    · rw [String.toList_append]
      exact List.forall_mem_append.mpr ⟨each, List.all_eq_true.mp (by decide)⟩
  have whole := front.append delimits_doubleColon back atBoundary_nil .nil
  simpa using whole

end Token

namespace Parser

variable {steps : List Registration} {word start : String}

/-- A wildcard comes to the cases of the enum and the constants of the class that its word names and
whose names begin with its text, whatever has been registered and in whichever order. -/
theorem parse_wildcard (undivided : Registration.Undivided steps) (parser : Parser)
    (filled : parser.registry = .ofRegistrations steps) (granted : 0 < parser.maxDepth)
    (names : Rule.NamesClass word)
    (each : ∀ char ∈ start.toList, Token.isWordChar char = true) :
    Registration.ExpandsTo steps (Rule.className word) start
      (parser.parse (word ++ "::" ++ start ++ "*")).toOption := by
  have undivided' : ':' ∉ (Rule.className word).toList := fun among =>
    absurd (names.each _ (Rule.mem_of_mem_className among)) (by decide)
  refine ⟨_, Registration.listsConstants_constantsFrom undivided undivided', ?_⟩
  rw [← Registration.hasCase_ofRegistrations, ← TypeRegistry.enum?_ofRegistrations, ← filled]
  apply toOption_readText (Token.spells_wildcard names each)
  obtain ⟨levels, same⟩ := Nat.exists_eq_succ_of_ne_zero (Nat.ne_of_gt granted)
  rw [same]
  apply answers_unionType (by simp)
  apply answers_primaryBody (by simp) (Rule.chosen_classConstant names)
  exact Rule.answers_classConstant (parser.typeWithin levels) rfl word start

/-- An enum with constants of its own, one of which is given a value twice and shares it with
another, and a class whose name begins like that of the enum. -/
def statuses : List Registration :=
  [.constant "Status" "D_DAYS" (.int 7), .constant "StatusD" "DAYS" (.int 99),
    .constant "Status" "D_LIMIT" (.int 30), .enumeration "Status" ["Active", "Deleted"],
    .constant "Status" "DEFAULT" (.enumCase "Status" "Active"),
    .constant "Status" "D_DAYS" (.int 30)]

theorem parse_wildcard_of_statuses :
    let parser : Parser := { registry := .ofRegistrations statuses }
    Registration.Undivided statuses ∧ Rule.NamesClass "Status" ∧
      (∀ char ∈ "D".toList, Token.isWordChar char = true) ∧
      ∃ node, parser.parse "Status::D*" = .ok node ∧
        node.canonical = "Status::Deleted|Status::Active|30" ∧
        Registration.ExpandsTo statuses "Status" "D" (some node) := by
  intro parser
  have undivided : Registration.Undivided statuses := by decide
  have names : Rule.NamesClass "Status" :=
    ⟨by decide, List.all_eq_true.mp (by decide), by decide,
      Token.isNumeric_iff.not.mp (by decide), by decide, rfl, by decide⟩
  have each : ∀ char ∈ "D".toList, Token.isWordChar char = true :=
    List.all_eq_true.mp (by decide)
  have expands := parse_wildcard undivided parser rfl (by decide) names each
  have text : "Status" ++ "::" ++ "D" ++ "*" = "Status::D*" := by decide
  have bare : Rule.className "Status" = "Status" := by decide
  rw [text, bare] at expands
  have read : (parser.parse "Status::D*").toOption.map Node.canonical =
      some "Status::Deleted|Status::Active|30" := by
    decide +kernel
  obtain ⟨node, success, shown⟩ := Option.map_eq_some_iff.mp read
  exact ⟨undivided, names, each, node, Except.toOption_eq_some_iff.mp success, shown,
    success ▸ expands⟩

/-- Two classes whose names differ in a leading dot. -/
def limits : List Registration :=
  [.constant ".Limits" "MAX" (.int 10), .constant "Limits" "MAX" (.int 20)]

/-- The constants of a class whose name begins with a dot are not what a wildcard of that name
comes to. -/
theorem not_expandsTo_of_leading_dot :
    let parser : Parser := { registry := .ofRegistrations limits }
    Registration.Undivided limits ∧ Rule.NamesClass ".Limits" ∧
      ¬ Registration.ExpandsTo limits ".Limits" "M" (parser.parse ".Limits::M*").toOption := by
  intro parser
  have undivided : Registration.Undivided limits := by decide
  have names : Rule.NamesClass ".Limits" :=
    ⟨by decide, List.all_eq_true.mp (by decide), by decide,
      Token.isNumeric_iff.not.mp (by decide), by decide, rfl, by decide⟩
  refine ⟨undivided, names, fun expands => ?_⟩
  have own : Registration.ExpandsTo limits ".Limits" "M" (some (.literal (.int 10))) := by
    have single : (TypeRegistry.ofRegistrations limits).constantsFrom ".Limits" "M" =
        [("MAX", .int 10)] := by
      decide +kernel
    have lists : Registration.ListsConstants limits ".Limits" "M" [("MAX", .int 10)] :=
      single ▸ Registration.listsConstants_constantsFrom undivided (by decide)
    exact ⟨_, lists, rfl⟩
  have read : (parser.parse ".Limits::M*").toOption.map Node.canonical = some "20" := by
    decide +kernel
  rw [expands.unique own] at read
  exact absurd read (by decide +kernel)

end Parser

end Schemata
