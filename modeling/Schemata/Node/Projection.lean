import Schemata.Node.Basic

/-!
# Projections and children

The projection of a node to one side leaves out the properties that take no part in it.  A struct
can lose all of its properties by it.  Beside it stands the rebuilding of a node from changed
children, which leaves out nothing.
-/

namespace Schemata.Node

mutual

def project (side : Direction) : Node → Node
  | .list item => .list (project side item)
  | .record item => .record (project side item)
  | .tuple elements => .tuple (projectAll side elements)
  | .struct kind properties => .struct kind (projectProperties side properties)
  | .union members discriminator => .union (projectAll side members) discriminator
  | .intersection members kind => .intersection (projectAll side members) kind
  | .constrained inner validators => .constrained (project side inner) validators
  | .cast inner target strategy => .cast (project side inner) target strategy
  | .branded inner tag => .branded (project side inner) tag
  | .named inner name => .named (project side inner) name
  | node => node

def projectAll (side : Direction) : List Node → List Node
  | [] => []
  | node :: rest => project side node :: projectAll side rest

def projectProperties (side : Direction) : List (Property Node) → List (Property Node)
  | [] => []
  | ⟨name, node, optional, direction⟩ :: rest =>
      if direction.isOn side then
        ⟨name, project side node, optional, direction⟩ :: projectProperties side rest
      else projectProperties side rest

end

/-- Rebuilds a node with every child changed, from left to right. -/
def mapChildren {m : Type → Type} [Monad m] (change : Node → m Node) : Node → m Node
  | .list item => return .list (← change item)
  | .record item => return .record (← change item)
  | .tuple elements => return .tuple (← elements.mapM change)
  | .struct kind properties =>
      return .struct kind (← properties.mapM fun property =>
        return { property with node := ← change property.node })
  | .union members discriminator => return .union (← members.mapM change) discriminator
  | .intersection members kind => return .intersection (← members.mapM change) kind
  | .constrained inner validators => return .constrained (← change inner) validators
  | .cast inner target strategy => return .cast (← change inner) target strategy
  | .branded inner tag => return .branded (← change inner) tag
  | .named inner name => return .named (← change inner) name
  | node => return node

end Schemata.Node
