import Schemata.Node.Basic
import Schemata.Sha256

/-!
# The canonical form

The text a node is known by.  Struct properties are written in the order of their names, so that
structs that differ in declaration order only have one form.  Alternatives are joined by bars, the
members of an intersection by ampersands with parentheses around a union.
-/

namespace Schemata

def Literal.display : Literal → String
  | .bool value => if value then "true" else "false"
  | .int value => toString value.toInt
  | .float value => value.typeText
  | .string value => String.ofList (Text.Quoted.encode value.toList)
  | .enumCase enumeration case => enumeration ++ "::" ++ case

/-- Entries in ascending order of their names; entries of one name keep their order. -/
def sortByName {α : Type} (name : α → String) (entries : List α) : List α :=
  entries.mergeSort fun left right => !decide (name right < name left)

def sortedProperties {ν : Type} (properties : List (Property ν)) : List (Property ν) :=
  sortByName Property.name properties

namespace Node

def isPlainKey (name : String) : Bool :=
  !name.isEmpty && name.toList.all fun char =>
    Text.Character.isAlphanumeric char || char == '_' || char == '-'

def displayKey (name : String) : String :=
  if isPlainKey name then name else String.ofList (Text.Quoted.encode name.toList)

def directionMark : Direction → String
  | .input => "in "
  | .output => "out "
  | .both => ""

def isUnion : Node → Bool
  | .union .. => true
  | _ => false

mutual

def canonical : Node → String
  | .builtIn kind => kind.keyword
  | .literal value => value.display
  | .enumeration name => "enum<" ++ name ++ ">"
  | .dateTime className format => "datetime<" ++ className ++ ", " ++ format.display ++ ">"
  | .list item => "list<" ++ canonical item ++ ">"
  | .record item => "array<string, " ++ canonical item ++ ">"
  | .tuple elements => "array\x7b" ++ String.intercalate ", " (canonicals elements) ++ "\x7d"
  | .struct kind properties =>
      let entries := sortByName Prod.fst (canonicalProperties properties)
      kind.keyword ++ "\x7b" ++ String.intercalate ", " (entries.map Prod.snd) ++ "\x7d"
  | .union members _ => String.intercalate "|" (canonicals members)
  | .intersection members _ => String.intercalate "&" (canonicalOperands members)
  | .constrained inner validators =>
      "constrained<" ++
        String.intercalate ", " (canonical inner :: validators.map (·.display)) ++ ">"
  | .cast inner target strategy =>
      "cast<" ++ target ++ ", " ++ strategy.keyword ++ ", " ++ canonical inner ++ ">"
  | .branded inner tag =>
      "branded<" ++ canonical inner ++ ", " ++ String.ofList (Text.Quoted.encode tag.toList) ++ ">"
  | .named inner name =>
      "named<" ++ String.ofList (Text.Quoted.encode name.toList) ++ ", " ++ canonical inner ++ ">"
  | .ref key => "ref<" ++ key ++ ">"

def canonicals : List Node → List String
  | [] => []
  | node :: rest => canonical node :: canonicals rest

def canonicalOperands : List Node → List String
  | [] => []
  | node :: rest =>
      (if node.isUnion then "(" ++ canonical node ++ ")" else canonical node) ::
        canonicalOperands rest

def canonicalProperties : List (Property Node) → List (String × String)
  | [] => []
  | ⟨name, node, optional, direction⟩ :: rest =>
      (name, directionMark direction ++ displayKey name ++ (if optional then "?" else "") ++ ": " ++
        canonical node) :: canonicalProperties rest

end

def contentKey (node : Node) : String :=
  Sha256.hexDigest node.canonical

end Node

end Schemata
