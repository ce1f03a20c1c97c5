import Schemata.CommandLine.Report
import Schemata.Json.Reader
import Schemata.Project.Basic

/-!
# Running the program

What a call does, as a function of what it finds around it: files, the standard input and the
project file.  Every run ends with an exit code and the two texts it writes.
-/

namespace Schemata.CommandLine

/-- A project file: there is no file, it cannot be read, it is not written in the notation of
project files, or it holds a document. -/
inductive ConfigFile where
  | missing (reason : String)
  | unreadable (reason : String)
  | malformed (reason : String)
  | document (content : Document)

/-- What a run finds around it.  Each way to reach it can fail with a reason. -/
structure Surroundings (m : Type → Type) where
  readText : (path : String) → m (Except String String)
  readInput : m (Except String String)
  writeText : (path content : String) → m (Except String Unit)
  readConfig : (path : String) → m ConfigFile

def defaultConfig : String :=
  "castor.toml"

def noSuchFile : String :=
  "No such file or directory (os error 2)"

namespace Invocation

def refusal (call : Invocation) (message : String) : Outcome :=
  .failed (call.report message)

def projectOf (call : Invocation) (settings : Settings) : Except Outcome Project :=
  (Project.ofSettings settings).mapError fun error => call.refusal error.message

/-- The project of what was found under a path.  A file that nobody asked for need not be there. -/
def loaded (call : Invocation) (path : String) : ConfigFile → Except Outcome Project
  | .missing reason =>
      if call.config.isSome then .error (call.refusal s!"could not read '{path}': {reason}")
      else call.projectOf {}
  | .unreadable reason => .error (call.refusal s!"could not read '{path}': {reason}")
  | .malformed reason => .error (call.refusal s!"could not parse '{path}': {reason}")
  | .document content =>
      match Settings.ofDocument? content with
      | some settings => call.projectOf settings
      | none => .error (call.refusal s!"could not parse '{path}': not the settings of a project")

def typeOf (call : Invocation) (project : Project) (typeText : String) : Except Outcome Node :=
  (project.parser.parse typeText).mapError fun error => .failed (call.reportSyntax error)

def walked {α : Type} (call : Invocation) (result : Except CodecError α) : Except Outcome α :=
  result.mapError fun error => .failed (call.reportCodec error)

def dataOf (call : Invocation) (source : String) : Except String String → Except Outcome Json
  | .error reason =>
      let name := if source = "-" then "stdin" else s!"'{source}'"
      .error (call.refusal s!"could not read {name}: {reason}")
  | .ok content =>
      match Json.parse? content with
      | some value => .ok value
      | none => .error (call.refusal s!"invalid JSON in '{source}'")

/-- The type strings of a JSON object of them.  Every member has to be a string, also one whose key
occurs again. -/
def typeTexts? (content : String) : Option (Dict String) := do
  let entries ← Json.entries? content
  let typeTexts ← entries.mapM fun entry =>
    match entry.2 with
    | .string typeText => some (entry.1, typeText)
    | _ => none
  return Dict.ofEntries typeTexts

def typesOf (call : Invocation) (project : Project) : Dict String → Except Outcome (Dict Node)
  | [] => .ok []
  | (name, typeText) :: rest =>
      match project.parser.parse typeText with
      | .ok node => (call.typesOf project rest).map fun others => (name, node) :: others
      | .error error => .error <| .failed <|
          call.report s!"schema '{name}' does not parse" ++ call.reportSyntax error

def bundleOf (call : Invocation) (project : Project) (path : String) :
    Except String String → Except Outcome Bundle
  | .error reason => .error (call.refusal s!"could not read '{path}': {reason}")
  | .ok content =>
      match typeTexts? content with
      | none => .error <| call.refusal
          s!"'{path}' must be a JSON object of schema name to type string"
      | some typeTexts => do
          let schemas ← call.typesOf project typeTexts
          (Bundle.compile schemas).mapError fun error => call.refusal error.message

section

variable {m : Type → Type} [Monad m]

abbrev Step (m : Type → Type) := ExceptT Outcome m

/-- The text of a source: a file, or the standard input under the name of a hyphen. -/
def sourceText (around : Surroundings m) (source : String) : m (Except String String) :=
  if source = "-" then around.readInput else around.readText source

def decoded (call : Invocation) (around : Surroundings m) (project : Project)
    (typeText source : String) (coerce : Bool) : Step m (Node × Value) := do
  let node ← (call.typeOf project typeText : Except Outcome Node)
  let wire ← ExceptT.mk (do return call.dataOf source (← sourceText around source))
  let value ← (call.walked ((project.codec coerce).decode node wire) : Except Outcome Value)
  return (node, value)

def perform (call : Invocation) (around : Surroundings m) : Step m Outcome := do
  let path := call.config.getD defaultConfig
  let project ← ExceptT.mk (do return call.loaded path (← around.readConfig path))
  match call.action with
  | .check typeText => return call.checked (← (call.typeOf project typeText : Except Outcome Node))
  | .parse typeText source coerce => do
      let (_, value) ← call.decoded around project typeText source coerce
      return call.parsed value
  | .serialize typeText source coerce => do
      let (node, value) ← call.decoded around project typeText source coerce
      let wire ← (call.walked ((project.codec coerce).encode node value) : Except Outcome Json)
      return call.answer wire
  | .compile schemas out => do
      let bundle ← ExceptT.mk (do
        return call.bundleOf project schemas (← around.readText schemas))
      match out with
      | none => return { output := bundle.source }
      | some out =>
          match ← around.writeText out bundle.source with
          | .ok _ => return call.written bundle out
          | .error reason => throw (call.refusal s!"could not write '{out}': {reason}")

end

end Invocation

def run {m : Type → Type} [Monad m] (around : Surroundings m) (arguments : List String) :
    m Outcome :=
  match readArguments arguments with
  | .error stop => return .ofStop stop
  | .ok call => do
      match ← (call.perform around).run with
      | .ok outcome => return outcome
      | .error outcome => return outcome

end Schemata.CommandLine
