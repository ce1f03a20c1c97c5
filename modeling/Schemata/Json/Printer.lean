import Schemata.Json.Basic
import Schemata.Binary64.Layout

/-!
# Writing JSON

The compact text of a JSON value, and the text indented by two spaces a level.  In both an empty
container is written without a blank, and members come in the order of their keys.
-/

namespace Schemata.Json

def controlCode (code : Nat) : List Char :=
  let digits := Nat.toDigits 16 code
  List.replicate (4 - digits.length) '0' ++ digits

def escapeChar (char : Char) : List Char :=
  if char = '\x22' ∨ char = '\\' then ['\\', char]
  else if char = '\x08' then ['\\', 'b']
  else if char = '\x0c' then ['\\', 'f']
  else if char = '\n' then ['\\', 'n']
  else if char = '\r' then ['\\', 'r']
  else if char = '\t' then ['\\', 't']
  else if char.toNat < 0x20 then '\\' :: 'u' :: controlCode char.toNat
  else [char]

def quoted (text : String) : String :=
  String.ofList ('\x22' :: text.toList.flatMap escapeChar ++ ['\x22'])

def Number.text : Number → String
  | .integer value _ => String.ofList (Text.Decimal.ofInt value)
  | .float value _ => value.jsonText

mutual

def compact : Json → String
  | .null => "null"
  | .bool value => if value then "true" else "false"
  | .number value => value.text
  | .string value => quoted value
  | .array items => "[" ++ String.intercalate "," (compactItems items) ++ "]"
  | .object members => "\x7b" ++ String.intercalate "," (compactMembers members) ++ "\x7d"

def compactItems : List Json → List String
  | [] => []
  | item :: rest => compact item :: compactItems rest

def compactMembers : List (String × Json) → List String
  | [] => []
  | (key, value) :: rest => (quoted key ++ ":" ++ compact value) :: compactMembers rest

end

def lineBreak (level : Nat) : String :=
  String.ofList ('\n' :: List.replicate (2 * level) ' ')

def block (opening closing : String) (level : Nat) (items : List String) : String :=
  if items.isEmpty then opening ++ closing
  else
    opening ++ lineBreak (level + 1) ++ String.intercalate ("," ++ lineBreak (level + 1)) items ++
      lineBreak level ++ closing

mutual

def prettyAt (level : Nat) : Json → String
  | .null => "null"
  | .bool value => if value then "true" else "false"
  | .number value => value.text
  | .string value => quoted value
  | .array items => block "[" "]" level (prettyItems (level + 1) items)
  | .object members => block "\x7b" "\x7d" level (prettyMembers (level + 1) members)

def prettyItems (level : Nat) : List Json → List String
  | [] => []
  | item :: rest => prettyAt level item :: prettyItems level rest

def prettyMembers (level : Nat) : List (String × Json) → List String
  | [] => []
  | (key, value) :: rest =>
      (quoted key ++ ": " ++ prettyAt level value) :: prettyMembers level rest

end

def pretty (value : Json) : String :=
  prettyAt 0 value

end Schemata.Json
