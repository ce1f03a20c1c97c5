import Mathlib.Data.List.Forall2
import Schemata.Bundle.Expression
import Schemata.Proofs.Source.Literals
import Schemata.Proofs.Source.Terms

/-!
# What expressions spell

The text of an expression spells the tokens of a term, as long as what it calls constructors, fields
and methods are names.
-/

namespace Schemata.Source

open List (Forall₂)
open Expression Text

def integerTerm (value : Int64) : Term :=
  if value = Int64.minValue then .path "i64::MIN"
  else if value = Int64.maxValue then .path "i64::MAX"
  else .integer value.toInt

def floatTerm : Binary64 → Term
  | .nan => .path "f64::NAN"
  | .infinite false => .path "f64::INFINITY"
  | .infinite true => .path "f64::NEG_INFINITY"
  | value => .float value

mutual

def termOf : Expression → Term
  | .path name => .path name
  | .bool value => .path (if value then "true" else "false")
  | .natural value => .integer value
  | .integer value => integerTerm value
  | .float value => floatTerm value
  | .text content => .text content
  | .owned content => .method (.text content) "to_owned" []
  | .pair first second => .pair (termOf first) (termOf second)
  | .vector items => .vector (termsOf items)
  | .collected items => .method (.method (.array (termsOf items)) "into_iter" []) "collect" []
  | .call function arguments => .call function (termsOf arguments)
  | .record name fields => .record name (fieldsOf fields)
  | .method receiver name argument => .method (termOf receiver) name [termOf argument]
  | .tried inner => .tried (termOf inner)

def termsOf : List Expression → List Term
  | [] => []
  | expression :: rest => termOf expression :: termsOf rest

def fieldsOf : List (String × Expression) → List (String × Term)
  | [] => []
  | (name, expression) :: rest => (name, termOf expression) :: fieldsOf rest

end

mutual

/-- What stands where a name is due is one. -/
def Named : Expression → Prop
  | .path name => IsName name
  | .pair first second => Named first ∧ Named second
  | .vector items => AllNamed items
  | .collected items => AllNamed items
  | .call function arguments => IsName function ∧ AllNamed arguments
  | .record name fields => IsName name ∧ FieldsNamed fields
  | .method receiver name argument => Named receiver ∧ IsName name ∧ Named argument
  | .tried inner => Named inner
  | _ => True

def AllNamed : List Expression → Prop
  | [] => True
  | expression :: rest => Named expression ∧ AllNamed rest

def FieldsNamed : List (String × Expression) → Prop
  | [] => True
  | (name, expression) :: rest => IsName name ∧ Named expression ∧ FieldsNamed rest

end

/-! ## Numbers -/

theorem covers_integer (value : Int64) :
    Covers (integerText value).toList (integerTerm value).tokens := by
  unfold integerText integerTerm
  split
  · exact covers_name (isName_ofList (by decide))
  split
  · exact covers_name (isName_ofList (by decide))
  rw [Decimal.toList_toString, Decimal.ofInt, Term.tokens]
  split
  · exact (delimits_mark _ (by decide)).before (covers_ofNat _)
  · exact covers_ofNat _

theorem covers_float (value : Binary64) :
    Covers (floatText value).toList (floatTerm value).tokens := by
  cases value with
  | nan => exact covers_name (isName_ofList (by decide))
  | infinite negative =>
      cases negative
      · exact covers_name (isName_ofList (by decide))
      · exact covers_name (isName_ofList (by decide))
  | finite negative mantissa exponent canonical =>
      have positive := covers_positive (.finite false mantissa exponent canonical) rfl rfl
      cases negative with
      | false => exact positive
      | true =>
          have signed := (delimits_mark '-' (by decide)).before positive
          rw [Binary64.typeText, String.toList_ofList] at signed
          change Covers (Binary64.typeText (.finite true mantissa exponent canonical)).toList _
          rw [Binary64.typeText, String.toList_ofList]
          exact signed

/-! ## Lists -/

theorem covers_commas {texts : List String} {runs : List (List Token)}
    (each : Forall₂ (fun text run => Covers text.toList run) texts runs) :
    Covers (commas texts).toList (separated runs) := by
  unfold commas separated
  rw [String.toList_intercalate]
  induction each with
  | nil =>
      intro rest later _ spells
      exact spells
  | @cons text run texts runs first others ih =>
      cases others with
      | nil => simpa using first
      | cons second others =>
          simp only [List.map_cons, List.intercalate_cons_cons] at ih ⊢
          have all := first.append delimits_comma ih
          simpa using all

section

variable {texts : List String} {runs : List (List Token)}
  (each : Forall₂ (fun text run => Covers text.toList run) texts runs)

include each

/-- A list in parentheses behind something else. -/
theorem Covers.round {text : List Char} {tokens : List Token} (before : Covers text tokens) :
    Covers (text ++ '(' :: ((commas texts).toList ++ [')']))
      (tokens ++ Token.mark '(' :: (separated runs ++ [Token.mark ')'])) := by
  have opening := delimits_mark '(' (by decide)
  have closing := delimits_mark ')' (by decide)
  have all := (before.append opening (covers_commas each)).close closing
  simpa using all

/-- A list in brackets. -/
theorem delimits_square : Delimits ('[' :: ((commas texts).toList ++ [']']))
    (.mark '[' :: (separated runs ++ [Token.mark ']'])) where
  boundary rest := by
    have opening := delimits_mark '[' (by decide)
    exact opening.boundary ((commas texts).toList ++ [']'] ++ rest)
  spells := by
    intro rest later spells
    have opening := delimits_mark '[' (by decide)
    have closing := delimits_mark ']' (by decide)
    have inside := opening.spells
      (covers_commas each (closing.boundary rest) (closing.spells spells))
    simpa using inside

/-- A list in braces behind something else. -/
theorem Covers.curly {text : List Char} {tokens : List Token} (before : Covers text tokens) :
    Covers (text ++ (" \x7b ".toList ++ ((commas texts).toList ++ " \x7d".toList)))
      (tokens ++ Token.mark '\x7b' :: (separated runs ++ [Token.mark '\x7d'])) := by
  have opening := (delimits_blank.append
    (delimits_mark '\x7b' (by decide))).append delimits_blank
  have closing := delimits_blank.append
    (delimits_mark '\x7d' (by decide))
  have all := (before.append opening (covers_commas each)).close closing
  simpa using all

end

/-- A method without arguments. -/
theorem Covers.method {text : List Char} {tokens : List Token} {name : String}
    (receiver : Covers text tokens) (isName : IsName name) :
    Covers (text ++ ('.' :: name.toList ++ ['(', ')']))
      (tokens ++ [Token.mark '.', .name name, .mark '(', .mark ')']) := by
  have all := (covers_member receiver isName).round .nil
  simpa [commas, separated] using all

/-! ## Expressions -/

mutual

/-- The text of an expression spells the tokens of its term. -/
theorem covers_render : (expression : Expression) → Named expression →
    Covers expression.render.toList (termOf expression).tokens
  | .path name, named => covers_name named
  | .bool value, _ => by
      cases value
      · exact covers_name (isName_ofList (by decide))
      · exact covers_name (isName_ofList (by decide))
  | .natural value, _ => by
      have digits := covers_ofNat value
      rw [← Decimal.toList_repr] at digits
      rw [termOf, Term.tokens, if_neg (by omega)]
      exact digits
  | .integer value, _ => covers_integer value
  | .float value, _ => covers_float value
  | .text content, _ => (delimits_ofString content).covers
  | .owned content, _ => by
      have owned : IsName "to_owned" := isName_ofList (by decide)
      have all := (delimits_ofString content).covers.method owned
      simpa [render, termOf, Term.tokens, runs, separated] using all
  | .pair first second, named => by
      have opening := delimits_mark '(' (by decide)
      have closing := delimits_mark ')' (by decide)
      have inside := (covers_render first named.1).append delimits_comma
        (covers_render second named.2)
      have all := (opening.before inside).close closing
      simpa [render, termOf, Term.tokens] using all
  | .vector items, named => by
      have opening := (delimits_mark '!' (by decide)).append
        (delimits_square (covers_renderAll items named))
      have vec : IsName "vec" := isName_ofList (by decide)
      have all := (covers_name vec).close opening
      simpa [render, termOf, Term.tokens] using all
  | .collected items, named => by
      have items := (delimits_square (covers_renderAll items named)).covers
      have iterator : IsName "into_iter" := isName_ofList (by decide)
      have collection : IsName "collect" := isName_ofList (by decide)
      have all := (items.method iterator).method collection
      simpa [render, termOf, Term.tokens, runs, separated] using all
  | .call function arguments, named => by
      have all := (covers_name named.1).round (covers_renderAll arguments named.2)
      simpa [render, termOf, Term.tokens] using all
  | .record name fields, named => by
      have all := (covers_name named.1).curly (covers_renderFields fields named.2)
      simpa [render, termOf, Term.tokens] using all
  | .method receiver name argument, named => by
      have member := covers_member (covers_render receiver named.1) named.2.1
      have all := member.round (.cons (covers_render argument named.2.2) .nil)
      simpa [render, termOf, termsOf, Term.tokens, runs, commas] using all
  | .tried inner, named => by
      have all := (covers_render inner named).close
        (delimits_mark '?' (by decide))
      simpa [render, termOf, Term.tokens] using all

theorem covers_renderAll : (expressions : List Expression) → AllNamed expressions →
    Forall₂ (fun text run => Covers text.toList run) (renderAll expressions)
      (runs (termsOf expressions))
  | [], _ => .nil
  | expression :: rest, named =>
      .cons (covers_render expression named.1) (covers_renderAll rest named.2)

theorem covers_renderFields : (fields : List (String × Expression)) → FieldsNamed fields →
    Forall₂ (fun text run => Covers text.toList run) (renderFields fields)
      (fieldRuns (fieldsOf fields))
  | [], _ => .nil
  | (name, expression) :: rest, named => by
      refine .cons ?_ (covers_renderFields rest named.2.2)
      have field := (covers_name named.1).append delimits_colon (covers_render expression named.2.1)
      simpa using field

end

end Schemata.Source
