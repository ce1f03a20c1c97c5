import Schemata.Parser.Context
import Schemata.Parser.Cursor
import Schemata.TypeRegistry

/-!
# Grammar rules

A primary type is read by the first rule that applies at the cursor.  A rule can read further types
at its cursor, and types of other texts on behalf of a declaration.
-/

namespace Schemata

inductive Expansion where
  | alias (name : String)
  | object (className : String)
  deriving DecidableEq

/-- The surroundings a type is read in. -/
structure Site where
  registry : TypeRegistry
  context : ParsingContext
  /-- The declarations whose texts are being parsed, the innermost first. -/
  expanding : List Expansion := []

abbrev TypeReader := Site → Parse Node

/-- A way to read a primary type. -/
structure Rule where
  name : String
  applies : Site → Cursor → Bool
  read : TypeReader → Site → Parse Node

namespace TypeReader

def complete (types : TypeReader) (site : Site) : Parse Node := do
  let node ← types site
  let cursor ← get
  if cursor.atEnd then return node
  else Parse.fail (.unexpectedAfterType cursor.current.token.display)

def readText (types : TypeReader) (site : Site) (text : String) : Except SyntaxError Node :=
  match Cursor.ofInput text with
  | .error error => .error error
  | .ok cursor =>
      match (types.complete site).run cursor with
      | .ok node _ => .ok node
      | .error error _ => .error error

def readDeclared (types : TypeReader) (site : Site) (expansion : Expansion)
    (context : ParsingContext) (text : String) : Except SyntaxError Node :=
  types.readText { site with context, expanding := expansion :: site.expanding } text

end TypeReader

end Schemata
