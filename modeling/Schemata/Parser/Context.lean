import Schemata.Node.Basic

/-!
# Parsing contexts

Where a type string stands: its namespace, the names imported into it, the aliases declared or
imported there and the types bound to generic parameters.
-/

namespace Schemata

structure ParsingContext where
  scope : Option String := none
  imports : List (String × String) := []
  localAliases : List (String × String) := []
  /-- Aliases declared elsewhere, each with its type string and the context of its declaration. -/
  importedAliases : List (String × String × ParsingContext) := []
  generics : List (String × Node) := []

namespace ParsingContext

def splitFirst (name : List Char) : List Char × Option (List Char) :=
  let head := name.takeWhile (· != '.')
  match name.drop head.length with
  | [] => (head, none)
  | _ :: rest => (head, some rest)

/-- The namespace of a qualified name: what stands before its last dot. -/
def scopeOf? (qualified : String) : Option String :=
  let rest := qualified.toList.reverse.dropWhile (· != '.')
  match rest with
  | [] => none
  | _ :: scope => some (String.ofList scope.reverse)

def declaring (qualified : String) : ParsingContext :=
  { scope := scopeOf? qualified }

/-- The qualified names a name can stand for, in the order in which they are looked up: by
an import of its first part, in the namespace, and as it is.  A leading dot makes a name
absolute. -/
def candidates (context : ParsingContext) (name : String) : List String :=
  match name.toList with
  | '.' :: absolute => [String.ofList absolute]
  | chars =>
      let (head, rest) := splitFirst chars
      let imported := match Dict.get? context.imports (String.ofList head) with
        | some qualified =>
            match rest with
            | some rest => [qualified ++ "." ++ String.ofList rest]
            | none => [qualified]
        | none => []
      let inScope := match context.scope with
        | some scope => [scope ++ "." ++ name]
        | none => []
      imported ++ inScope ++ [name]

end ParsingContext

end Schemata
