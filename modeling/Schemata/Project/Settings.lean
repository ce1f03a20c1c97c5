import Schemata.Codec.Basic
import Schemata.Project.Document

/-!
# Project settings

The sections of a project file: options, the parser, aliases, enums, date and time types, and
constants.  Every section may be left out, and there is no other one.
-/

namespace Schemata

structure Settings where
  options : CodecOptions := {}
  parserDepth : Nat := 64
  aliases : Dict String := []
  enums : Dict (List String) := []
  dateTimes : Dict String := []
  /-- Values by class and name, joined by a double colon. -/
  constants : Dict Literal := []

namespace Settings

def sectionNames : List String :=
  ["options", "parser", "aliases", "enums", "datetimes", "constants"]

/-- The options of walks.  Other entries are passed over. -/
def options? (document : Document) : Option CodecOptions := do
  let defaults : CodecOptions := {}
  let parts ← document.parts? ["coerce_primitives", "max_depth"]
  let coercePrimitives ←
    Document.part? parts "coerce_primitives" defaults.coercePrimitives Document.bool?
  let maxDepth ← Document.part? parts "max_depth" defaults.maxDepth Document.natural?
  return { coercePrimitives, maxDepth }

def parserDepth? (default : Nat) (document : Document) : Option Nat := do
  let parts ← document.parts? ["max_depth"]
  Document.part? parts "max_depth" default Document.natural?

/-- The value of a constant.  An integer that exceeds a word is the double nearest to it. -/
def constant? : Document → Option Literal
  | .bool value => some (.bool value)
  | .integer value =>
      match Text.Decimal.toInt64? value with
      | some word => some (.int word)
      | none => some (.float (Binary64.ofInt value))
  | .float value => some (.float value)
  | .text content => some (.string content)
  | .table entries => do
      let enumeration ← (Dict.get? entries "enum").bind Document.text?
      let case ← (Dict.get? entries "case").bind Document.text?
      return .enumCase enumeration case
  | _ => none

def ofDocument? (document : Document) : Option Settings := do
  let defaults : Settings := {}
  let sections ← document.parts? sectionNames
  if sections.any fun entry => !sectionNames.contains entry.1 then none
  let texts := Document.entries? Document.text?
  let options ← Document.part? sections "options" defaults.options options?
  let parserDepth ← Document.part? sections "parser" defaults.parserDepth
    (parserDepth? defaults.parserDepth)
  let aliases ← Document.part? sections "aliases" defaults.aliases texts
  let enums ← Document.part? sections "enums" defaults.enums (Document.entries? Document.texts?)
  let dateTimes ← Document.part? sections "datetimes" defaults.dateTimes texts
  let constants ← Document.part? sections "constants" defaults.constants
    (Document.entries? constant?)
  return { options, parserDepth, aliases, enums, dateTimes, constants }

end Settings

end Schemata
