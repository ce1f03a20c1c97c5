import Schemata.Node.Build
import Schemata.Parser.Rule

/-!
# Host classes as types

A class with a constructor becomes a struct whose input side is its parameters and whose output
side is its fields; a promoted field makes its parameter a property of both sides.  A class without
a constructor has all fields on both sides.  A collection becomes a list.
-/

namespace Schemata.Rule

structure ClassExpansion where
  types : TypeReader
  site : Site
  lexeme : Lexeme
  className : String

namespace ClassExpansion

def fieldType (expansion : ClassExpansion) (decl : FieldDecl) : Except SyntaxError Node :=
  let read := expansion.types.readDeclared expansion.site (.object expansion.className)
    (.declaring expansion.className) decl.typeText
  match read with
  | .error error => .error (error.within .field s!"{expansion.className}.{decl.name}")
  | .ok node =>
      .ok (if decl.validators.isEmpty then node else .constrained node decl.validators)

def parameterProperties (expansion : ClassExpansion) :
    List FieldDecl → Except SyntaxError (List (Property Node))
  | [] => .ok []
  | decl :: rest => do
      let node ← expansion.fieldType decl
      let others ← expansion.parameterProperties rest
      return { name := decl.name, node, optional := decl.optional, direction := .input } :: others

/-- Puts the properties of a name on both sides, up to the first one. -/
def promote (name : String) : List (Property Node) → List (Property Node)
  | [] => []
  | property :: rest =>
      if property.name = name then { property with direction := .both } :: rest
      else property :: promote name rest

/-- Adds the properties of fields to those that are there.  A field shares its name with a property
exactly when it is promoted, and has a type. -/
def addFields (expansion : ClassExpansion) (fail : SyntaxError.Cause → SyntaxError)
    (direction : Direction) :
    List (Property Node) → List FieldDecl → Except SyntaxError (List (Property Node))
  | properties, [] => .ok properties
  | properties, decl :: rest =>
      let isTaken := properties.any fun property => property.name == decl.name
      if isTaken && decl.promoted then
        expansion.addFields fail direction (promote decl.name properties) rest
      else if isTaken then .error (fail (.unpromotedField decl.name expansion.className))
      else if decl.promoted then
        .error (fail (.promotedWithoutParameter decl.name expansion.className))
      else if decl.typeText.toList.all Text.Character.isBlank then
        .error (fail (.untypedField decl.name expansion.className))
      else
        match expansion.fieldType decl with
        | .error error => .error error
        | .ok node =>
            let property : Property Node :=
              { name := decl.name, node, optional := decl.optional, direction }
            expansion.addFields fail direction (properties ++ [property]) rest

def objectType (expansion : ClassExpansion) (parameters : Option (List FieldDecl))
    (fields : List FieldDecl) : Parse Node := do
  let cursor ← get
  let strategy :=
    if parameters.isSome then CastingStrategy.constructor else .assignProperties
  let direction := if parameters.isSome then Direction.output else .both
  let inputs ← Parse.lift (expansion.parameterProperties (parameters.getD []))
  let properties ← Parse.lift <|
    expansion.addFields (cursor.errorAt expansion.lexeme) direction inputs fields
  match Node.structOf .object properties with
  | .ok shape =>
      Parse.located expansion.lexeme (Node.castTo shape expansion.className strategy)
  | .error error =>
      throw ((cursor.locateAt expansion.lexeme error).within .object expansion.className)

def collectionType (expansion : ClassExpansion) (item : String) : Parse Node := do
  let item ← Parse.lift (expansion.fieldType { name := "item", typeText := item })
  Parse.located expansion.lexeme (Node.castTo (.list item) expansion.className .collection)

end ClassExpansion

def classType : Rule where
  name := "user_object"
  applies site cursor := cursor.word?.any fun word =>
    (site.context.candidates word).any fun name => (site.registry.object? name).isSome
  read types site := do
    let lexeme ← Parse.current
    let word ← Parse.takeWord
    let found := (site.context.candidates word).findSome? fun name =>
      (site.registry.object? name).map fun hostClass => (name, hostClass)
    match found with
    | none => Parse.failAt lexeme (.unknownType word)
    | some (className, hostClass) =>
        if site.expanding.contains (.object className) then
          Parse.failAt lexeme (.recursiveObject className)
        else
          let expansion : ClassExpansion := { types, site, lexeme, className }
          match hostClass.shape with
          | .object parameters fields => expansion.objectType parameters fields
          | .collection item => expansion.collectionType item

end Schemata.Rule
