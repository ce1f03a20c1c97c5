import Schemata.Node.Build
import Schemata.Parser.Rule

/-!
# Names

Constants of classes, enums, date and time types, and aliases.  Each name is looked up under its
candidates in order.  The text of an alias is parsed again at every use.
-/

namespace Schemata.Rule

def hasCandidate (site : Site) (cursor : Cursor) (isKnown : String → Bool) : Bool :=
  cursor.word?.any fun word => (site.context.candidates word).any isKnown

def checkCase (site : Site) (lexeme : Lexeme) : Literal → Parse Unit
  | .enumCase enumeration case =>
      if site.registry.hasCase enumeration case then return ()
      else Parse.failAt lexeme (.unknownEnumCase enumeration case)
  | _ => return ()

def addConstants (site : Site) (lexeme : Lexeme) :
    List Literal → List (String × Literal) → Parse (List Literal)
  | values, [] => return values
  | values, (_, value) :: rest => do
      checkCase site lexeme value
      if values.any (·.isEqual value) then addConstants site lexeme values rest
      else addConstants site lexeme (values ++ [value]) rest

def casesFrom (enumeration : String) (start : List Char) (cases : List String) : List Literal :=
  (cases.filter fun case => start.isPrefixOf case.toList).map (.enumCase enumeration)

def oneOf (lexeme : Lexeme) (pattern : String) : List Literal → Parse Node
  | [] => Parse.failAt lexeme (.noMatchingConstant pattern)
  | [value] => return .literal value
  | values => Parse.located lexeme (Node.unionOf (values.map .literal))

/-- All cases and constants of a class whose names begin with a text, under the first candidate
that is an enum or has any. -/
def wildcard (site : Site) (classLexeme constLexeme : Lexeme) (pattern : String)
    (start : List Char) : List String → Parse Node
  | [] => Parse.failAt classLexeme (.undefinedConstant pattern)
  | candidate :: rest => do
      let cases := site.registry.enum? candidate
      let own := casesFrom candidate start (cases.getD [])
      let constants := site.registry.constantsFrom candidate (String.ofList start)
      let values ← addConstants site constLexeme own constants
      if values.isEmpty && cases.isNone then
        wildcard site classLexeme constLexeme pattern start rest
      else oneOf constLexeme pattern values

/-- A case or a constant, a case before a constant of its name. -/
def constant (site : Site) (classLexeme constLexeme : Lexeme) (pattern name : String) :
    List String → Parse Node
  | [] => Parse.failAt classLexeme (.undefinedConstant pattern)
  | candidate :: rest =>
      let cases := site.registry.enum? candidate
      if cases.any (·.contains name) then return .literal (.enumCase candidate name)
      else
        match site.registry.constant? candidate name with
        | some value => do
            checkCase site constLexeme value
            return .literal value
        | none =>
            if cases.isSome then Parse.failAt constLexeme (.noSuchCase candidate name)
            else constant site classLexeme constLexeme pattern name rest

def beforeStar? (name : String) : Option (List Char) :=
  match name.toList.reverse with
  | '*' :: rest => some rest.reverse
  | _ => none

/-- `Class::NAME`, and `Class::START*` for all names with a beginning. -/
def classConstant : Rule where
  name := "class_const"
  applies _ cursor := cursor.word?.isSome && cursor.hasMarkAt 1 .doubleColon
  read _ site := do
    let classLexeme ← Parse.current
    let className ← Parse.takeWord
    let _ ← Parse.expectMark .doubleColon
    let constLexeme ← Parse.current
    let name ← Parse.takeWord
    let pattern := className ++ "::" ++ name
    let candidates := site.context.candidates className
    match beforeStar? name with
    | some start => wildcard site classLexeme constLexeme pattern start candidates
    | none => constant site classLexeme constLexeme pattern name candidates

def enumeration : Rule where
  name := "enum"
  applies site cursor := hasCandidate site cursor fun name => (site.registry.enum? name).isSome
  read _ site := do
    let lexeme ← Parse.current
    let word ← Parse.takeWord
    let found := (site.context.candidates word).find? fun name =>
      (site.registry.enum? name).isSome
    match found with
    | some name => return .enumeration name
    | none => Parse.failAt lexeme (.unknownType word)

def dateTime : Rule where
  name := "date_time"
  applies site cursor :=
    hasCandidate site cursor fun name => (site.registry.dateTime? name).isSome
  read _ site := do
    let lexeme ← Parse.current
    let word ← Parse.takeWord
    let found := (site.context.candidates word).findSome? fun name =>
      (site.registry.dateTime? name).map fun format => (name, format)
    match found with
    | some (name, format) => return .dateTime name format
    | none => Parse.failAt lexeme (.unknownType word)

structure AliasDeclaration where
  name : String
  body : String
  context : ParsingContext

/-- The declaration of an alias: a local one, an imported one, or the global one of the first
candidate that has one. -/
def alias? (site : Site) (word : String) : Option AliasDeclaration :=
  match Dict.get? site.context.localAliases word with
  | some body => some { name := word, body, context := site.context }
  | none =>
      match Dict.get? site.context.importedAliases word with
      | some (body, context) => some { name := word, body, context }
      | none =>
          (site.context.candidates word).findSome? fun name =>
            (site.registry.alias? name).map fun body =>
              { name, body, context := .declaring name }

def expandAlias (types : TypeReader) (site : Site) (lexeme : Lexeme)
    (declaration : AliasDeclaration) : Parse Node :=
  let expansion := Expansion.alias declaration.name
  if site.expanding.contains expansion then
    Parse.failAt lexeme (.recursiveAlias declaration.name)
  else
    Parse.lift <|
      (types.readDeclared site expansion declaration.context declaration.body).mapError
        (·.within .alias declaration.name)

def aliasName : Rule where
  name := "alias"
  applies site cursor := cursor.word?.any fun word =>
    Dict.contains site.context.generics word || (alias? site word).isSome
  read types site := do
    let lexeme ← Parse.current
    let word ← Parse.takeWord
    match Dict.get? site.context.generics word with
    | some node => return node
    | none =>
        match alias? site word with
        | some declaration => expandAlias types site lexeme declaration
        | none => Parse.failAt lexeme (.unknownType word)

end Schemata.Rule
