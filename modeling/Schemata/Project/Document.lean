import Schemata.Json.Basic

/-!
# Configuration documents

The data of a configuration file, whatever notation it is written in.  Doubles that are not finite
can stand in it.
-/

namespace Schemata

inductive Document where
  | null
  | bool (value : Bool)
  | integer (value : Int)
  | float (value : Binary64)
  | text (content : String)
  | list (items : List Document)
  | table (entries : List (String × Document))

namespace Document

instance : Inhabited Document :=
  ⟨.null⟩

mutual

def ofJson : Json → Document
  | .null => .null
  | .bool value => .bool value
  | .number (.integer value _) => .integer value
  | .number (.float value _) => .float value
  | .string content => .text content
  | .array items => .list (ofJsonItems items)
  | .object members => .table (ofJsonMembers members)

def ofJsonItems : List Json → List Document
  | [] => []
  | item :: rest => ofJson item :: ofJsonItems rest

def ofJsonMembers : List (String × Json) → List (String × Document)
  | [] => []
  | (key, value) :: rest => (key, ofJson value) :: ofJsonMembers rest

end

def text? : Document → Option String
  | .text content => some content
  | _ => none

def texts? : Document → Option (List String)
  | .list items => items.mapM text?
  | _ => none

def bool? : Document → Option Bool
  | .bool value => some value
  | _ => none

def natural? : Document → Option Nat
  | .integer value => if 0 ≤ value then some value.toNat else none
  | _ => none

def entries? {α : Type} (read : Document → Option α) : Document → Option (Dict α)
  | .table entries => entries.mapM fun entry => (read entry.2).map fun value => (entry.1, value)
  | _ => none

/-- The parts of a record by name: those of a table, or those of a list in the order of the
names. -/
def parts? (names : List String) : Document → Option (List (String × Document))
  | .table entries => some entries
  | .list items => if items.length ≤ names.length then some (names.zip items) else none
  | _ => none

def part? {α : Type} (parts : List (String × Document)) (name : String) (default : α)
    (read : Document → Option α) : Option α :=
  match Dict.get? parts name with
  | some document => read document
  | none => some default

end Document

end Schemata
