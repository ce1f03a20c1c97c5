import Schemata.Node.Projection
import Schemata.SyntaxError

/-!
# Node registries

A table of nodes that references name.  An entry is built when it is first looked up, and keeps what
its build resulted in.  Following a reference, and replacing every reference in a node by what it
stands for, end after a fixed number of steps even when references form a cycle.
-/

namespace Schemata

inductive LookupError where
  | unknownKey (key : String)
  | unbuildable (key : String) (cause : SyntaxError)
  | tooDeep (limit : Nat)

/-- A node under a key: what building it results in, and whether that has been done. -/
structure NodeRegistry.Entry where
  outcome : Except SyntaxError Node
  isBuilt : Bool

/-- Nodes by key, and the keys whose entries have been built by a lookup, the last one first. -/
structure NodeRegistry where
  entries : Dict NodeRegistry.Entry := []
  builds : List String := []

namespace LookupError

def message : LookupError → String
  | .unknownKey key => s!"no node registered under key '{key}'"
  | .unbuildable key cause => s!"node '{key}' could not be built: {cause.display}"
  | .tooDeep limit => s!"reference chain deeper than {limit}"

end LookupError

namespace NodeRegistry

/-- A session with a registry, in which lookups build entries. -/
abbrev Session := EStateM LookupError NodeRegistry

/-- The number of references in a chain, and of steps below a root, that are still followed. -/
def maxSteps : Nat :=
  256

def insert (registry : NodeRegistry) (key : String) (outcome : Except SyntaxError Node) :
    NodeRegistry :=
  { registry with entries := Dict.insert registry.entries key { outcome, isBuilt := false } }

def insertNode (registry : NodeRegistry) (key : String) (node : Node) : NodeRegistry :=
  let entry : Entry := { outcome := .ok node, isBuilt := true }
  { registry with entries := Dict.insert registry.entries key entry }

def ofNodes (nodes : List (String × Node)) : NodeRegistry :=
  nodes.foldl (fun registry entry => registry.insertNode entry.1 entry.2) {}

def size (registry : NodeRegistry) : Nat :=
  registry.entries.length

def isEmpty (registry : NodeRegistry) : Bool :=
  registry.entries.isEmpty

def contains (registry : NodeRegistry) (key : String) : Bool :=
  Dict.contains registry.entries key

def Entry.node (entry : Entry) (key : String) : Except LookupError Node :=
  entry.outcome.mapError (.unbuildable key)

def lookup (registry : NodeRegistry) (key : String) : Except LookupError Node :=
  match Dict.get? registry.entries key with
  | some entry => entry.node key
  | none => .error (.unknownKey key)

def markBuilt (registry : NodeRegistry) (key : String) : NodeRegistry :=
  match Dict.get? registry.entries key with
  | some entry =>
      if entry.isBuilt then registry
      else
        { entries := Dict.insert registry.entries key { entry with isBuilt := true }
          builds := key :: registry.builds }
  | none => registry

/-- The node under a key, which is built unless it has been. -/
def get (key : String) : Session Node := do
  let registry ← getThe NodeRegistry
  set (registry.markBuilt key)
  match registry.lookup key with
  | .ok node => return node
  | .error error => throw error

section

variable {m : Type → Type} [Monad m] [MonadExceptOf LookupError m]

/-- The node a chain of references ends at, with a number of references left to follow. -/
def followWith (look : String → m Node) : (hops : Nat) → Node → m Node
  | 0, .ref _ => throw (.tooDeep maxSteps)
  | hops + 1, .ref key => do followWith look hops (← look key)
  | _, node => return node

/-- The node with every reference replaced, from left to right, by what it stands for, with a number
of steps left to take.  Both a child and a reference take one. -/
def resolveWith (look : String → m Node) : (steps : Nat) → Node → m Node
  | 0, _ => throw (.tooDeep maxSteps)
  | steps + 1, .ref key => do resolveWith look steps (← look key)
  | steps + 1, node => node.mapChildren (resolveWith look steps)

end

/-- The node a chain of references ends at. -/
def follow (registry : NodeRegistry) (node : Node) : Except LookupError Node :=
  followWith registry.lookup maxSteps node

/-- The node with every reference replaced by what it stands for. -/
def resolve (registry : NodeRegistry) (node : Node) : Except LookupError Node :=
  resolveWith registry.lookup (maxSteps + 1) node

def following (node : Node) : Session Node :=
  followWith get maxSteps node

def resolving (node : Node) : Session Node :=
  resolveWith get (maxSteps + 1) node

def describe (registry : NodeRegistry) : String :=
  "NodeRegistry \x7b keys: " ++ Text.Escaped.ofStrings (Dict.keys registry.entries) ++ " \x7d"

end NodeRegistry

end Schemata
