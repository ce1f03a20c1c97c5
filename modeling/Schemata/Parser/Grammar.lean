import Schemata.Node.Discriminator
import Schemata.Parser.ClassType
import Schemata.Parser.Leaf
import Schemata.Parser.Name
import Schemata.Parser.Selection
import Schemata.Parser.Shape

/-!
# The grammar of type strings

A type is a union of intersections of primary types with list brackets behind them, with an
optional question mark in front for null.  Primary types are types in parentheses and what the rules
read.  Each primary type within another one takes one of the levels a parser grants.
-/

namespace Schemata

def Rule.builtIn : List Rule :=
  [arrayLike, struct, keyword, int, literal, classConstant, enumeration, dateTime, aliasName,
    selection, classType]

/-- A parser: the names it knows, the rules it adds to those of the language, and its levels. -/
structure Parser where
  registry : TypeRegistry
  maxDepth : Nat := 64
  extensions : List Rule := []

namespace Parser

def rules (parser : Parser) : List Rule :=
  Rule.builtIn ++ parser.extensions

/-- The type in parentheses, or the type read by the first rule that applies. -/
def primaryBody (rules : List Rule) (types : TypeReader) (site : Site) : Parse Node := do
  if ← Parse.eatMark .openParen then
    let node ← types site
    let _ ← Parse.expectMark .closeParen
    return node
  else
    let cursor ← get
    match rules.find? fun rule => rule.applies site cursor with
    | some rule => rule.read types site
    | none =>
        match cursor.current.token with
        | .word text => Parse.fail (.unknownType text)
        | .endOfInput => Parse.fail .missingType
        | other => Parse.fail (.notAType other.display)

def listBrackets : (turns : Nat) → Node → Parse Node
  | 0, node => return node
  | turns + 1, node => do
      if ← Parse.eatMark .closedBrackets then listBrackets turns (.list node)
      else return node

def postfixType (primary : Parse Node) : Parse Node := do
  let node ← primary
  listBrackets (← Parse.turns) node

def intersectionType (primary : Parse Node) : Parse Node := do
  let lexeme ← Parse.current
  let first ← postfixType primary
  let others ← Parse.following .ampersand (postfixType primary) (← Parse.turns)
  if others.isEmpty then return first
  else Parse.located lexeme (Node.intersectionOf (first :: others))

/-- The members of a union that stand in the place of one member: those of a union without
discriminator, and the member itself otherwise. -/
def flattened : Node → List Node
  | .union members none => members
  | member => [member]

def unionNode (members : List Node) : Except SyntaxError Node :=
  match Discriminator.infer? members with
  | some discriminator => Node.discriminatedUnionOf members discriminator
  | none => Node.unionOf members

def unionType (primary : Parse Node) : Parse Node := do
  let lexeme ← Parse.current
  let nullable ← Parse.eatMark .question
  let first ← intersectionType primary
  let others ← Parse.following .pipe (intersectionType primary) (← Parse.turns)
  let members := (if nullable then [Node.builtIn .null] else []) ++ first :: others
  match members with
  | [node] => return node
  | _ => Parse.located lexeme (unionNode (members.flatMap flattened))

/-- A type with a number of levels left.  Without any, not even a primary type can be read. -/
def typeWithin (parser : Parser) : (levels : Nat) → TypeReader
  | 0, _ => unionType (Parse.fail (.nestedTooDeep parser.maxDepth))
  | levels + 1, site => unionType (primaryBody parser.rules (typeWithin parser levels) site)

def site (parser : Parser) (context : ParsingContext) : Site :=
  { registry := parser.registry, context }

def typeAtCursor (parser : Parser) (context : ParsingContext) : Parse Node :=
  parser.typeWithin parser.maxDepth (parser.site context)

def parseIn (parser : Parser) (context : ParsingContext) (text : String) :
    Except SyntaxError Node :=
  (parser.typeWithin parser.maxDepth).readText (parser.site context) text

def parse (parser : Parser) (text : String) : Except SyntaxError Node :=
  parser.parseIn {} text

end Parser

end Schemata
