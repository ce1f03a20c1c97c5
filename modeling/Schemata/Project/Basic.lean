import Schemata.Codec.Encode
import Schemata.Parser.Grammar
import Schemata.Project.Settings

/-!
# Projects

Settings whose enums have cases and whose constants are well named and refer to cases that exist,
together with the registry of what they declare.  A project knows no host classes.
-/

namespace Schemata

inductive ProjectError where
  | emptyEnum (name : String)
  | unnamedConstant (key : String)
  | unknownCase (key enumeration case : String)

structure Project where
  settings : Settings
  registry : TypeRegistry

def ProjectError.message : ProjectError → String
  | .emptyEnum name => s!"enum '{name}' must have at least one case"
  | .unnamedConstant key => s!"constant key '{key}' must look like Class::NAME"
  | .unknownCase key enumeration case =>
      s!"constant '{key}' refers to unknown enum case {enumeration}::{case}"

namespace Project

def splitKey? : List Char → Option (List Char × List Char)
  | [] => none
  | ':' :: ':' :: rest => some ([], rest)
  | char :: rest => (splitKey? rest).map fun parts => (char :: parts.1, parts.2)

def addEnums : TypeRegistry → Dict (List String) → Except ProjectError TypeRegistry
  | registry, [] => .ok registry
  | registry, (name, cases) :: rest =>
      if cases.isEmpty then .error (.emptyEnum name)
      else addEnums (registry.addEnum name cases) rest

def addConstants : TypeRegistry → Dict Literal → Except ProjectError TypeRegistry
  | registry, [] => .ok registry
  | registry, (key, value) :: rest =>
      match splitKey? key.toList with
      | none => .error (.unnamedConstant key)
      | some (className, name) =>
          let added := registry.addConstant (String.ofList className) (String.ofList name) value
          match value with
          | .enumCase enumeration case =>
              if registry.hasCase enumeration case then addConstants added rest
              else .error (.unknownCase key enumeration case)
          | _ => addConstants added rest

def ofSettings (settings : Settings) : Except ProjectError Project := do
  let registry ← addEnums {} settings.enums
  let registry := settings.dateTimes.foldl
    (fun registry entry => registry.addDateTime entry.1 (.ofSetting entry.2)) registry
  let registry := settings.aliases.foldl
    (fun registry entry => registry.addAlias entry.1 entry.2) registry
  let registry ← addConstants registry settings.constants
  return { settings, registry }

def parser (project : Project) : Parser :=
  { registry := project.registry, maxDepth := project.settings.parserDepth }

/-- The codec of a project, which coerces if the settings or the caller say so. -/
def codec (project : Project) (coerce : Bool) : Codec :=
  let options := project.settings.options
  { types := project.registry
    options := { options with coercePrimitives := options.coercePrimitives || coerce } }

end Project

end Schemata
