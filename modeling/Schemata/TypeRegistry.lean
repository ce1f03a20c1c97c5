import Schemata.Host.Basic
import Schemata.Node.Basic

/-!
# Type registries

The names a type string can refer to: enums, date and time types, class constants, global aliases
and host classes.  A later registration under a name replaces the earlier one.
-/

namespace Schemata

/-- The names known to a parser and to an executor. -/
structure TypeRegistry where
  enums : Dict (List String) := []
  dateTimes : Dict DateTimeFormat := []
  /-- Constants by class and name, joined by a double colon. -/
  constants : Dict Literal := []
  aliases : Dict String := []
  objects : Dict HostClass := []

namespace TypeRegistry

def constantKey (className name : String) : String :=
  className ++ "::" ++ name

def addEnum (registry : TypeRegistry) (name : String) (cases : List String) : TypeRegistry :=
  { registry with enums := Dict.insert registry.enums name cases }

def addDateTime (registry : TypeRegistry) (name : String) (format : DateTimeFormat) :
    TypeRegistry :=
  { registry with dateTimes := Dict.insert registry.dateTimes name format }

def addConstant (registry : TypeRegistry) (className name : String) (value : Literal) :
    TypeRegistry :=
  { registry with constants := Dict.insert registry.constants (constantKey className name) value }

def addAlias (registry : TypeRegistry) (name typeText : String) : TypeRegistry :=
  { registry with aliases := Dict.insert registry.aliases name typeText }

def addObject (registry : TypeRegistry) (hostClass : HostClass) : TypeRegistry :=
  { registry with objects := Dict.insert registry.objects hostClass.name hostClass }

def enum? (registry : TypeRegistry) (name : String) : Option (List String) :=
  Dict.get? registry.enums name

def dateTime? (registry : TypeRegistry) (name : String) : Option DateTimeFormat :=
  Dict.get? registry.dateTimes name

def constant? (registry : TypeRegistry) (className name : String) : Option Literal :=
  Dict.get? registry.constants (constantKey className name)

/-- The constants of a class whose names begin with a text, in the order of their names.  Their keys
stand together, behind all smaller ones. -/
def constantsFrom (registry : TypeRegistry) (className start : String) : List (String × Literal) :=
  let key := constantKey className start
  let skipped := (constantKey className "").length
  let behind := registry.constants.dropWhile fun entry => entry.1 < key
  (behind.takeWhile fun entry => key.toList.isPrefixOf entry.1.toList).map fun entry =>
    (String.ofList (entry.1.toList.drop skipped), entry.2)

def alias? (registry : TypeRegistry) (name : String) : Option String :=
  Dict.get? registry.aliases name

def object? (registry : TypeRegistry) (name : String) : Option HostClass :=
  Dict.get? registry.objects name

def hasCase (registry : TypeRegistry) (enumeration case : String) : Bool :=
  (registry.enum? enumeration).any (·.contains case)

def describe (registry : TypeRegistry) : String :=
  "TypeRegistry \x7b enums: " ++ Text.Escaped.ofStrings (Dict.keys registry.enums) ++
    ", datetimes: " ++ Text.Escaped.ofStrings (Dict.keys registry.dateTimes) ++
    ", constants: " ++ Text.Escaped.ofStrings (Dict.keys registry.constants) ++
    ", aliases: " ++ Text.Escaped.ofStrings (Dict.keys registry.aliases) ++
    ", objects: " ++ Text.Escaped.ofStrings (Dict.keys registry.objects) ++ " \x7d"

end TypeRegistry

end Schemata
