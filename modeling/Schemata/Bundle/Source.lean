import Schemata.Bundle.Basic
import Schemata.Bundle.Expression

/-!
# Source modules

The module a bundle is written out as: one function for the table, one for the roots by name and
one for the names.
-/

namespace Schemata.Bundle

def headerLines : List String :=
  ["// @generated by castor-optimizer. Do not edit.",
    "",
    "#[allow(unused_imports)]",
    "use castor_core::\x7b",
    "    BuiltIn, CastingStrategy, DateTimeFormat, Direction, Discriminator, InvalidSyntax, " ++
      "LiteralValue,",
    "    Node, NodeRegistry, Pattern, Property, StructKind, Validator,",
    "\x7d;"]

def entryLine (entry : String × Node) : String :=
  "    registry.insert(" ++ Text.Escaped.ofString entry.1 ++ ", || Ok(" ++
    (Expression.ofNode entry.2).render ++ "));"

def rootLine (entry : String × Node) : String :=
  "        " ++ Text.Escaped.ofString entry.1 ++ " => || Ok(" ++
    (Expression.ofNode entry.2).render ++ "),"

def registryLines (table : Dict Node) : List String :=
  ["/// Shared nodes by content key, built on first access.",
    "pub fn registry() -> NodeRegistry \x7b",
    "    let mut registry = NodeRegistry::new();"] ++
  table.map entryLine ++
  ["    registry",
    "\x7d"]

def schemaLines (roots : Dict Node) : List String :=
  ["/// Root node of the schema called `name`, referring into [`registry`].",
    "pub fn schema(name: &str) -> Option<Result<Node, InvalidSyntax>> \x7b",
    "    let build: fn() -> Result<Node, InvalidSyntax> = match name \x7b"] ++
  roots.map rootLine ++
  ["        _ => return None,",
    "    \x7d;",
    "    Some(build())",
    "\x7d"]

def namesLines (roots : Dict Node) : List String :=
  ["pub fn names() -> &'static [&'static str] \x7b",
    "    &" ++ Text.Escaped.ofStrings (Dict.keys roots),
    "\x7d"]

def sourceLines (bundle : Bundle) : List String :=
  headerLines ++ [""] ++ registryLines bundle.table ++ [""] ++ schemaLines bundle.roots ++ [""] ++
    namesLines bundle.roots

def source (bundle : Bundle) : String :=
  String.join (bundle.sourceLines.map (· ++ "\n"))

end Schemata.Bundle
