import Schemata.Json.Basic

/-!
# Issues

Problems with data, each under the path of the value it was found at, and the report in which a walk
over data collects them.
-/

namespace Schemata

/-- One problem: a stable key, and what there is to say about the value. -/
structure Issue where
  key : String
  debug : Option Json := none

/-- Issues by path, in the order of the paths; those of one path in the order in which they were
found. -/
abbrev Issues := Dict (List Issue)

inductive Segment where
  | key (name : String)
  | index (position : Nat)
  deriving DecidableEq

/-- What a failed walk found. -/
structure Failure where
  issues : Issues

/-- The place a walk has come to, and the issues found so far. -/
structure Report where
  /-- The steps from the place back to the root. -/
  path : List Segment := []
  issues : Issues := []

def Segment.text : Segment → String
  | .key name => name
  | .index position => toString position

namespace Issues

def extend (issues : Issues) (path : String) (found : List Issue) : Issues :=
  Dict.insert issues path ((Dict.get? issues path).getD [] ++ found)

/-- Adds later issues behind earlier ones, path by path. -/
def merge (earlier later : Issues) : Issues :=
  later.foldl (fun issues entry => extend issues entry.1 entry.2) earlier

def entries (issues : Issues) : List (String × Issue) :=
  issues.flatMap fun entry => entry.2.map fun issue => (entry.1, issue)

end Issues

namespace Report

def rootPath : String :=
  "$"

/-- The text of the place: its steps from the root, joined by dots. -/
def pathText (report : Report) : String :=
  if report.path.isEmpty then rootPath
  else String.intercalate "." (report.path.reverse.map Segment.text)

def add (report : Report) (issue : Issue) : Report :=
  { report with issues := report.issues.extend report.pathText [issue] }

def hasIssues (report : Report) : Bool :=
  !report.issues.isEmpty

def enter (report : Report) (segment : Segment) : Report :=
  { report with path := segment :: report.path }

def leave (report : Report) : Report :=
  { report with path := report.path.drop 1 }

def failure (report : Report) : Failure :=
  { issues := report.issues }

end Report

namespace Failure

def issuesAt (failure : Failure) (path : String) : List Issue :=
  (Dict.get? failure.issues path).getD []

def keysAt (failure : Failure) (path : String) : List String :=
  (failure.issuesAt path).map Issue.key

def size (failure : Failure) : Nat :=
  failure.issues.entries.length

def isEmpty (failure : Failure) : Bool :=
  failure.issues.isEmpty

/-- The issues on one line, without what there is to say about them. -/
def display (failure : Failure) : String :=
  String.intercalate "; " <|
    failure.issues.entries.map fun entry => entry.1 ++ ": " ++ entry.2.key

def toJson (failure : Failure) : Json :=
  .object <| Dict.mapValues
    (fun issues => .array <| issues.map fun issue =>
      .ofMembers (("key", .string issue.key) :: (issue.debug.map fun debug =>
        ("debug", debug)).toList))
    failure.issues

end Failure

end Schemata
