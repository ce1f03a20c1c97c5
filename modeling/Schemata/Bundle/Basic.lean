import Schemata.Node.Canonical
import Schemata.NodeRegistry

/-!
# Bundles

Schemas that share their parts.  Every leaf, brand and struct of some schemas moves into one table
under its content key and leaves a reference behind, so that parts with the same canonical form are
stored once.
-/

namespace Schemata

/-- The shared nodes by content key, and the roots of the schemas by name. -/
structure Bundle where
  table : Dict Node
  roots : Dict Node

structure BundleError where
  schema : String
  key : String

def BundleError.message (error : BundleError) : String :=
  s!"schema '{error.schema}' already contains a reference to '{error.key}'"

/-- A step that adds to the table of shared nodes, or stops at the key of a reference. -/
abbrev Sharing := EStateM String (Dict Node)

namespace Sharing

/-- Stores a rewritten node under the content key of the node it stands for, unless that key is
taken, and gives a reference to it. -/
def store (node rewritten : Node) : Sharing Node := do
  let key := node.contentKey
  let table ← get
  if !Dict.contains table key then set (Dict.insert table key rewritten)
  return .ref key

mutual

/-- Rewrites a node from its leaves up.  A brand is stored whole. -/
def share : Node → Sharing Node
  | .ref key => throw key
  | .builtIn kind => store (.builtIn kind) (.builtIn kind)
  | .literal value => store (.literal value) (.literal value)
  | .enumeration name => store (.enumeration name) (.enumeration name)
  | .dateTime className format => store (.dateTime className format) (.dateTime className format)
  | .branded inner tag => store (.branded inner tag) (.branded inner tag)
  | .struct kind properties => do
      let rewritten ← shareProperties properties
      store (.struct kind properties) (.struct kind rewritten)
  | .list item => return .list (← share item)
  | .record item => return .record (← share item)
  | .tuple elements => return .tuple (← shareAll elements)
  | .union members discriminator => return .union (← shareAll members) discriminator
  | .intersection members kind => return .intersection (← shareAll members) kind
  | .constrained inner validators => return .constrained (← share inner) validators
  | .cast inner target strategy => return .cast (← share inner) target strategy
  | .named inner name => return .named (← share inner) name

def shareAll : List Node → Sharing (List Node)
  | [] => return []
  | node :: rest => do
      let shared ← share node
      return shared :: (← shareAll rest)

def shareProperties : List (Property Node) → Sharing (List (Property Node))
  | [] => return []
  | ⟨name, node, optional, direction⟩ :: rest => do
      let shared ← share node
      return ⟨name, shared, optional, direction⟩ :: (← shareProperties rest)

end

end Sharing

namespace Bundle

def addAll : Bundle → List (String × Node) → Except BundleError Bundle
  | bundle, [] => .ok bundle
  | bundle, (name, node) :: rest =>
      match (Sharing.share node).run bundle.table with
      | .ok root table => addAll { table, roots := bundle.roots ++ [(name, root)] } rest
      | .error key _ => .error { schema := name, key }

/-- The bundle of some schemas, taken in the order of their names. -/
def compile (schemas : Dict Node) : Except BundleError Bundle :=
  addAll { table := [], roots := [] } schemas

def root? (bundle : Bundle) (name : String) : Option Node :=
  Dict.get? bundle.roots name

def registry (bundle : Bundle) : NodeRegistry :=
  .ofNodes bundle.table

def resolve? (bundle : Bundle) (name : String) (registry : NodeRegistry) :
    Option (Except LookupError Node) :=
  (bundle.root? name).map registry.resolve

end Bundle

end Schemata
