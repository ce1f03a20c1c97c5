/-!
# Command line arguments

The options and the commands of the program.  Options that belong to every command can stand before
and behind the name of the command, where the later place counts.  No option is given twice in one
place.
-/

namespace Schemata.CommandLine

inductive Style where
  | text
  | json
  deriving DecidableEq

inductive Action where
  | check (typeText : String)
  | parse (typeText input : String) (coerce : Bool)
  | serialize (typeText input : String) (coerce : Bool)
  | compile (schemas : String) (out : Option String)

structure Invocation where
  style : Style
  quiet : Bool
  verbose : Bool
  config : Option String
  action : Action

inductive Stop where
  | help
  | version
  | usage (message : String)

/-- An option: whether a value follows it, and which values can. -/
structure OptionSpec where
  name : String
  hasValue : Bool := false
  accepts : String → Bool := fun _ => true

structure Given where
  /-- Values by option, with an empty text for an option without value. -/
  options : List (String × String) := []
  operands : List String := []

def globalOptions : List OptionSpec :=
  [{ name := "output", hasValue := true, accepts := ["text", "json"].contains },
    { name := "quiet" },
    { name := "verbose" },
    { name := "config", hasValue := true, accepts := fun value => !value.isEmpty }]

def dataOptions : List OptionSpec :=
  globalOptions ++ [{ name := "input", hasValue := true }, { name := "coerce" }]

def compileOptions : List OptionSpec :=
  globalOptions ++ [{ name := "out", hasValue := true, accepts := fun value => !value.isEmpty }]

namespace Given

def add (given : Given) (spec : OptionSpec) (value : String) : Except Stop Given :=
  if given.options.any fun option => option.1 == spec.name then
    .error (.usage s!"the argument '--{spec.name}' cannot be used multiple times")
  else if spec.accepts value then
    .ok { given with options := given.options ++ [(spec.name, value)] }
  else .error (.usage s!"invalid value '{value}' for '--{spec.name}'")

def value? (given : Given) (name : String) : Option String :=
  (given.options.find? fun option => option.1 == name).map Prod.snd

def has (given : Given) (name : String) : Bool :=
  (given.value? name).isSome

end Given

def splitOption? (argument : String) : Option (String × Option String) :=
  match argument.toList with
  | '-' :: '-' :: chars =>
      let name := chars.takeWhile (· != '=')
      match chars.drop name.length with
      | _ :: value => some (String.ofList name, some (String.ofList value))
      | [] => some (String.ofList name, none)
  | _ => none

/-- Whether an argument looks like an option.  A single hyphen does not. -/
def looksLikeOption (argument : String) : Bool :=
  match argument.toList with
  | '-' :: _ :: _ => true
  | _ => false

def unknownOption (isTop : Bool) (argument : String) : Stop :=
  if argument = "--help" ∨ argument.toList.take 2 = ['-', 'h'] then .help
  else if isTop ∧ (argument = "--version" ∨ argument.toList.take 2 = ['-', 'V']) then .version
  else .usage s!"unexpected argument '{argument}' found"

/-- Reads the arguments of one place.  Before the name of the command no operand is taken, and the
reading ends at the first one. -/
def readPlace (specs : List OptionSpec) (isTop : Bool) (given : Given) :
    List String → Except Stop (Given × List String)
  | [] => .ok (given, [])
  | argument :: rest =>
      if argument = "--" then
        if isTop then .error (.usage "a command is required before '--'")
        else .ok ({ given with operands := given.operands ++ rest }, [])
      else if !looksLikeOption argument then
        if isTop then .ok (given, argument :: rest)
        else readPlace specs isTop { given with operands := given.operands ++ [argument] } rest
      else
        let found := (splitOption? argument).bind fun (name, value) =>
          (specs.find? fun spec => spec.name == name).map fun spec => (spec, value)
        match found with
        | none => .error (unknownOption isTop argument)
        | some (spec, value) =>
            match spec.hasValue, value, rest with
            | true, some value, rest => do
                readPlace specs isTop (← given.add spec value) rest
            | true, none, value :: rest =>
                if looksLikeOption value then
                  .error (.usage s!"a value is required for '--{spec.name}'")
                else do readPlace specs isTop (← given.add spec value) rest
            | true, none, [] => .error (.usage s!"a value is required for '--{spec.name}'")
            | false, none, rest => do readPlace specs isTop (← given.add spec "") rest
            | false, some value, _ =>
                .error (.usage s!"unexpected value '{value}' for '--{spec.name}'")

def onlyOperand (name : String) (given : Given) : Except Stop String :=
  match given.operands with
  | [operand] => .ok operand
  | [] => .error (.usage s!"the argument <{name}> is required")
  | _ :: extra :: _ => .error (.usage s!"unexpected argument '{extra}' found")

def onlyPath (name : String) (given : Given) : Except Stop String := do
  let path ← onlyOperand name given
  if path.isEmpty then throw (.usage s!"the argument <{name}> is required")
  return path

def invocation (before behind : Given) (action : Action) : Invocation :=
  let value? (name : String) := (behind.value? name).orElse fun _ => before.value? name
  { style := if value? "output" = some "json" then .json else .text
    quiet := before.has "quiet" || behind.has "quiet"
    verbose := before.has "verbose" || behind.has "verbose"
    config := value? "config"
    action }

def readCommand (before : Given) (name : String) (arguments : List String) :
    Except Stop Invocation := do
  let readWith (specs : List OptionSpec) := readPlace specs false {} arguments
  match name with
  | "check" =>
      let (given, _) ← readWith globalOptions
      return invocation before given (.check (← onlyOperand "TYPE" given))
  | "parse" =>
      let (given, _) ← readWith dataOptions
      return invocation before given
        (.parse (← onlyOperand "TYPE" given) ((given.value? "input").getD "-") (given.has "coerce"))
  | "serialize" =>
      let (given, _) ← readWith dataOptions
      return invocation before given
        (.serialize (← onlyOperand "TYPE" given) ((given.value? "input").getD "-")
          (given.has "coerce"))
  | "compile" =>
      let (given, _) ← readWith compileOptions
      return invocation before given
        (.compile (← onlyPath "SCHEMAS" given) (given.value? "out"))
  | "help" =>
      match arguments with
      | [] => throw .help
      | topic :: _ =>
          if ["check", "parse", "serialize", "compile", "help"].contains topic then throw .help
          else throw (.usage s!"unrecognized subcommand '{topic}'")
  | other => throw (.usage s!"unrecognized subcommand '{other}'")

def readArguments (arguments : List String) : Except Stop Invocation := do
  let (before, rest) ← readPlace globalOptions true {} arguments
  match rest with
  | name :: behind => readCommand before name behind
  | [] => throw (.usage "a command is required")

end Schemata.CommandLine
