import Schemata.Node.Build
import Schemata.Parser.Rule

/-!
# Leaf types

Keywords, integers with bounds, and literals.
-/

namespace Schemata.Rule

def boundedInt (low high : Int64) : Node :=
  .constrained (.builtIn .int) [.intRange low high]

def keywordType? : String → Option Node
  | "string" => some (.builtIn .string)
  | "bool" => some (.builtIn .bool)
  | "null" => some (.builtIn .null)
  | "float" => some (.builtIn .float)
  | "mixed" => some (.builtIn .mixed)
  | "positive-int" => some (boundedInt 1 Int64.maxValue)
  | "negative-int" => some (boundedInt Int64.minValue (-1))
  | "non-negative-int" => some (boundedInt 0 Int64.maxValue)
  | "non-positive-int" => some (boundedInt Int64.minValue 0)
  | "non-empty-string" => some (.constrained (.builtIn .string) [.nonEmpty])
  | "non-falsy-string" | "truthy-string" => some (.constrained (.builtIn .string) [.nonFalsy])
  | "scalar" =>
      some (.union [.builtIn .int, .builtIn .float, .builtIn .bool, .builtIn .string] none)
  | "numeric" => some (.union [.builtIn .int, .builtIn .float] none)
  | _ => none

def keyword : Rule where
  name := "built_in"
  applies _ cursor := (cursor.word?.bind keywordType?).isSome
  read _ _ := do
    let lexeme ← Parse.current
    let word ← Parse.takeWord
    match keywordType? word with
    | some node => return node
    | none => Parse.failAt lexeme (.unknownType word)

/-- A bound of an integer: a number, or the word for the least or the greatest one. -/
def intBound : Parse Int64 := do
  let token := (← get).current.token
  match token with
  | .integer value =>
      let _ ← Parse.advance
      return value
  | .word "min" =>
      let _ ← Parse.advance
      return Int64.minValue
  | .word "max" =>
      let _ ← Parse.advance
      return Int64.maxValue
  | other => Parse.fail (.notABound other.display)

def int : Rule where
  name := "int"
  applies _ cursor := cursor.isWord "int"
  read _ _ := do
    let _ ← Parse.takeWord
    if ← Parse.eatMark .less then
      let lowLexeme ← Parse.current
      let low ← intBound
      let _ ← Parse.expectMark .comma
      let high ← intBound
      let _ ← Parse.expectMark .greater
      if high < low then Parse.failAt lowLexeme (.crossedBounds low.toInt high.toInt)
      else return boundedInt low high
    else return .builtIn .int

def literalOf? : Token → Option Literal
  | .string content => some (.string content)
  | .integer value => some (.int value)
  | .float value => some (.float value)
  | .bool value => some (.bool value)
  | _ => none

def literal : Rule where
  name := "literal"
  applies _ cursor := (literalOf? cursor.current.token).isSome
  read _ _ := do
    let lexeme ← Parse.advance
    match literalOf? lexeme.token with
    | some value => return .literal value
    | none => Parse.failAt lexeme (.notAType lexeme.token.display)

end Schemata.Rule
