import Schemata.Node.Build
import Schemata.Parser.Rule

/-!
# Selections

`Pick` and `Omit`: a struct with only some of its properties, under labels and casts.
-/

namespace Schemata.Rule

def selectable? : Node → Option (List (Property Node))
  | .struct _ properties => some properties
  | .named inner _ => selectable? inner
  | .cast inner _ _ => selectable? inner
  | _ => none

def literalKey? : Node → Option String
  | .literal (.string text) => some text
  | _ => none

def literalKeys? : Node → Option (List String)
  | .union members _ => members.mapM literalKey?
  | other => (literalKey? other).map ([·])

/-- The first key that is no property, for a selection that keeps its keys. -/
def missingKey? (keep : Bool) (keys : List String) (properties : List (Property Node)) :
    Option String :=
  if keep then keys.find? fun key => !properties.any fun property => property.name == key
  else none

def selection : Rule where
  name := "pick_omit"
  applies _ cursor :=
    (cursor.isWord "Pick" || cursor.isWord "Omit") && cursor.hasMarkAt 1 .less
  read types site := do
    let utilityLexeme ← Parse.current
    let utility ← Parse.takeWord
    let keep := utility == "Pick"
    let _ ← Parse.expectMark .less
    let targetLexeme ← Parse.current
    let target ← types site
    let _ ← Parse.expectMark .comma
    let keysLexeme ← Parse.current
    let keysNode ← types site
    let _ ← Parse.expectMark .greater
    match literalKeys? keysNode with
    | none => Parse.failAt keysLexeme (.selectionKeys utility keysNode.canonical)
    | some keys =>
        match selectable? target with
        | none => Parse.failAt targetLexeme (.selectionTarget utility target.canonical)
        | some properties =>
            match missingKey? keep keys properties with
            | some key => Parse.failAt keysLexeme (.missingSelectionKey key target.canonical)
            | none => Parse.located utilityLexeme (target.selectProperties keys keep)

end Schemata.Rule
