import Schemata.Bundle.Source
import Schemata.CommandLine.Arguments
import Schemata.Codec.Basic
import Schemata.Json.Printer
import Schemata.Node.Tree

/-!
# Reports

What a run writes about what it found.  A quiet call leaves out answers and plain messages; errors
that are written as JSON objects of their own are written by every call.
-/

namespace Schemata.CommandLine

structure Outcome where
  exitCode : Nat := 0
  output : String := ""
  errors : String := ""

def version : String :=
  "castor 0.1.0"

def usage : String :=
  String.intercalate "\n"
    ["Castor type description language toolchain",
      "",
      "Usage: castor [OPTIONS] <COMMAND>",
      "",
      "Commands:",
      "  check      Parse a type string and print its canonical form",
      "  parse      Parse wire JSON against a type and print the typed value",
      "  serialize  Parse wire JSON, then serialize the typed value back to wire form",
      "  compile    Compile a JSON map of schema name to type string into Rust source",
      "",
      "Options:",
      "      --output <OUTPUT>  Output format (text or json)",
      "      --quiet            Suppress non-essential output",
      "      --verbose          Log parser and executor decisions to stderr",
      "      --config <CONFIG>  Project file",
      "  -h, --help             Print help",
      "  -V, --version          Print version"]

def line (text : String) : String :=
  text ++ "\n"

namespace Outcome

def failed (errors : String) : Outcome :=
  { exitCode := 1, errors }

def ofStop : Stop → Outcome
  | .help => { output := line usage }
  | .version => { output := line version }
  | .usage message =>
      { exitCode := 2
        errors := line s!"error: {message}" ++ "\n" ++
          line "For more information, try '--help'." }

end Outcome

namespace Invocation

/-- A message as it is reported: not at all when the call is quiet. -/
def report (call : Invocation) (message : String) : String :=
  if call.quiet then ""
  else
    match call.style with
    | .text => line message
    | .json => line (Json.compact (.ofMembers [("error", .string message)]))

/-- A syntax error as it is reported.  In JSON it is reported even when the call is quiet. -/
def reportSyntax (call : Invocation) (error : SyntaxError) : String :=
  match call.style with
  | .json => line error.toJson.pretty
  | .text =>
      if call.quiet then "" else line s!"syntax error: {error.message}" ++ line error.pointer

def issueLines (failure : Failure) : String :=
  line s!"invalid data ({failure.size} issue(s)):" ++
    String.join (failure.issues.entries.map fun entry => line s!"  {entry.1}: {entry.2.key}")

/-- Why a value could not be taken over, as it is reported.  In JSON it is reported even when the
call is quiet. -/
def reportCodec (call : Invocation) (error : CodecError) : String :=
  match call.style, error with
  | .json, error => line error.toJson.pretty
  | .text, .invalid failure => if call.quiet then "" else issueLines failure
  | .text, error => call.report error.message

def answer (call : Invocation) (value : Json) : Outcome :=
  { output := if call.quiet then "" else line value.pretty }

def checked (call : Invocation) (node : Node) : Outcome :=
  match call.style with
  | .json =>
      call.answer (.ofMembers [("canonical", .string node.canonical), ("tree", node.tree)])
  | .text => { output := if call.quiet then "" else line node.canonical }

def parsed (call : Invocation) (value : Value) : Outcome :=
  let form := value.toJson?.getD .null
  match call.style with
  | .json => call.answer (.ofMembers [("type", .string value.typeName), ("value", form)])
  | .text => call.answer form

def written (call : Invocation) (bundle : Bundle) (path : String) : Outcome :=
  let schemas := bundle.roots.length
  let shared := bundle.table.length
  match call.style with
  | .json =>
      call.answer (.ofMembers
        [("schemas", .ofNat schemas), ("shared", .ofNat shared), ("out", .string path)])
  | .text =>
      { output := if call.quiet then "" else
          line s!"compiled {schemas} schema(s), {shared} shared node(s) -> {path}" }

end Invocation

end Schemata.CommandLine
