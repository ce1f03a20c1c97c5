import Schemata.Parser.Grammar

/-!
# Additional rules

Rules that can be added to the grammar.  They stand behind the rules of the language, so none of
them changes what the language reads already.
-/

namespace Schemata.Rule

def uuid : Rule where
  name := "uuid"
  applies _ cursor := cursor.isWord "uuid"
  read _ _ := do
    let _ ← Parse.takeWord
    return .constrained (.builtIn .string) [.uuid]

/-- `pair<T>`: a tuple of two elements of one type. -/
def pair : Rule where
  name := "pair"
  applies _ cursor := cursor.isWord "pair" && cursor.hasMarkAt 1 .less
  read types site := do
    let lexeme ← Parse.current
    let _ ← Parse.takeWord
    let _ ← Parse.expectMark .less
    let element ← types site
    let _ ← Parse.expectMark .greater
    Parse.located lexeme (Node.tupleOf [element, element])

/-- Claims `string`, which the language reads before any added rule. -/
def shadow : Rule where
  name := "shadow"
  applies _ cursor := cursor.isWord "string"
  read _ _ := Parse.fail (.custom "shadow consumer must never run")

def money : Rule where
  name := "money"
  applies _ cursor := cursor.isWord "money"
  read _ _ := do
    let _ ← Parse.takeWord
    return .named (.builtIn .string) "money"

/-- `brand<T, tag>`: a type under a nominal tag. -/
def brand : Rule where
  name := "brand"
  applies _ cursor := cursor.isWord "brand"
  read types site := do
    let lexeme ← Parse.current
    let _ ← Parse.takeWord
    let _ ← Parse.expectMark .less
    let inner ← types site
    let _ ← Parse.expectMark .comma
    let tag ← Parse.takeWord
    let _ ← Parse.expectMark .greater
    Parse.located lexeme (Node.brandedAs inner tag)

def extension? : String → Option Rule
  | "uuid" => some uuid
  | "pair" => some pair
  | "shadow" => some shadow
  | "money" => some money
  | "brand" => some brand
  | _ => none

end Schemata.Rule
