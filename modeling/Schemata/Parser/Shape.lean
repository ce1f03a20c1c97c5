import Schemata.Node.Build
import Schemata.Parser.Rule

/-!
# Lists, tuples and structs

`array` and `list` with their non-empty variants, tuples with or without keys, and structs.  An
`array` in braces is a struct when a key with a colon stands first, and a tuple if not.
-/

namespace Schemata.Rule

def atStruct (cursor : Cursor) : Bool :=
  if cursor.isWord "object" then cursor.hasMarkAt 1 .openBrace
  else if cursor.isWord "array" then
    let isKey := match cursor.tokenAt 2 with
      | .word _ | .string _ => true
      | _ => false
    cursor.hasMarkAt 1 .openBrace && isKey &&
      (cursor.hasMarkAt 3 .colon || (cursor.hasMarkAt 3 .question && cursor.hasMarkAt 4 .colon))
  else false

def listKeywords : List String :=
  ["array", "list", "non-empty-array", "non-empty-list"]

/-- What two type arguments make: a map from strings, or a list with its keys. -/
def keyedType (isList : Bool) (key value : Node) : Except SyntaxError.Cause Node :=
  match key with
  | .builtIn .string =>
      if isList then .error .listKey else .ok (.record value)
  | .builtIn .int => .ok (.list value)
  | other => .error (if isList then .listKey else .arrayKey other.canonical)

def typeArguments (types : TypeReader) (site : Site) (isList : Bool) : Parse Node := do
  let firstLexeme ← Parse.current
  let first ← types site
  if ← Parse.eatMark .comma then
    let value ← types site
    let _ ← Parse.expectMark .greater
    match keyedType isList first value with
    | .ok node => return node
    | .error cause => Parse.failAt firstLexeme cause
  else
    let _ ← Parse.expectMark .greater
    return .list first

/-- Takes the key before a tuple element, which must be the number of elements before it. -/
def tupleKey (position : Nat) : Parse Unit := do
  let cursor ← get
  match cursor.current.token with
  | .integer key =>
      if cursor.hasMarkAt 1 .colon then
        if key.toInt = position then
          let _ ← Parse.advance
          let _ ← Parse.advance
        else Parse.fail (.tupleKey key.toInt position)
  | _ => return ()

def tupleElements (types : TypeReader) (site : Site) :
    (turns position : Nat) → Parse (List Node)
  | 0, _ => return []
  | turns + 1, position => do
      if (← get).hasMarkAt 0 .closeBrace then return []
      tupleKey position
      let element ← types site
      if ← Parse.eatMark .comma then
        let others ← tupleElements types site turns (position + 1)
        return element :: others
      else return [element]

def tuple (types : TypeReader) (site : Site) : Parse Node := do
  let opening ← Parse.expectMark .openBrace
  let elements ← tupleElements types site (← Parse.turns) 0
  let _ ← Parse.expectMark .closeBrace
  Parse.located opening (Node.tupleOf elements)

def arrayLike : Rule where
  name := "array_like"
  applies _ cursor := cursor.word?.any listKeywords.contains && !atStruct cursor
  read types site := do
    let word ← Parse.takeWord
    let isList := word == "list" || word == "non-empty-list"
    let cursor ← get
    let node ←
      if ← Parse.eatMark .less then typeArguments types site isList
      else if cursor.hasMarkAt 0 .openBrace && !isList then tuple types site
      else pure (Node.list (.builtIn .mixed))
    if word == "non-empty-array" || word == "non-empty-list" then
      return .constrained node [.nonEmpty]
    else return node

/-- The name of a property.  The words for booleans are names, too. -/
def propertyName? : Token → Option String
  | .word text => some text
  | .string content => some content
  | .bool value => some (if value then "true" else "false")
  | _ => none

/-- The properties of a struct behind those read so far, up to its closing brace.  A comma may
stand behind the last one. -/
def structProperties (types : TypeReader) (site : Site) :
    (turns : Nat) → List (Property Node) → Parse (List (Property Node))
  | 0, _ => return []
  | turns + 1, earlier => do
      if (← get).hasMarkAt 0 .closeBrace then return []
      let keyLexeme ← Parse.current
      match propertyName? keyLexeme.token with
      | none => Parse.fail (.notAPropertyName keyLexeme.token.display)
      | some name =>
          let _ ← Parse.advance
          let optional ← Parse.eatMark .question
          let _ ← Parse.expectMark .colon
          let node ← types site
          if earlier.any fun property => property.name == name then
            Parse.failAt keyLexeme (.duplicateProperty name)
          else
            let property : Property Node := { name, node, optional, direction := .both }
            if ← Parse.eatMark .comma then
              let others ← structProperties types site turns (earlier ++ [property])
              return property :: others
            else return [property]

def struct : Rule where
  name := "struct"
  applies _ cursor := atStruct cursor
  read types site := do
    let keywordLexeme ← Parse.current
    let word ← Parse.takeWord
    let kind := if word == "object" then StructKind.object else .array
    let _ ← Parse.expectMark .openBrace
    let properties ← structProperties types site (← Parse.turns) []
    let _ ← Parse.expectMark .closeBrace
    Parse.located keywordLexeme (Node.structOf kind properties)

end Schemata.Rule
