-- SUMMARY: The command that shows the home and the search path that a launch would use.
import Launcher.CommandLine.Options
import Launcher.Logging.Configure

/-!
# The search path command

The command prepares a context from a copy of the variables and prints what it found, as
text or as one JSON document. No log line mixes with the document. The exit status is one
when there are failures.
-/
namespace Launcher.CommandLine

/-! ## Options -/

/-- The options of the command. -/
inductive PathsOption where
  | help
  | json
  | logLevel
  deriving DecidableEq, Repr

/-- How the options are written. -/
def pathsSwitches : List (Switch PathsOption) :=
  [⟨["-h", "--help"], false, .help⟩, ⟨["--json"], false, .json⟩, ⟨["--log-level"], true, .logLevel⟩]

/-- How the command is called. -/
def pathsUsage : String := "usage: bootdriver-paths [-h] [--json] [--log-level LOG_LEVEL]\n"

/-- What the command prints when it is asked for help. -/
def pathsHelp : String :=
  pathsUsage ++
  "\nShow the discovered installation directory and search path\n" ++
  "\noptions:\n" ++
  "  -h, --help            show this help message and exit\n" ++
  "  --json                Emit a JSON document\n" ++
  "  --log-level LOG_LEVEL\n" ++
  "                        Logging level for discovery diagnostics\n"

/-- What the arguments ask for. A level that was named without a value is not there. -/
structure PathsRequest where
  json : Bool := false
  logLevel : Option String := some defaultLogLevel

namespace PathsRequest

/-- Take a setting into account. -/
def apply (r : PathsRequest) (s : Setting PathsOption) : PathsRequest :=
  match s.meaning with
  | .help => r
  | .json => { r with json := true }
  | .logLevel => { r with logLevel := s.value }

/-- Take settings into account; the last one of a kind counts. -/
def ofSettings (settings : List (Setting PathsOption)) : PathsRequest := settings.foldl apply {}

/-- The level to log at. A document is not to be mixed with log lines. -/
def level (r : PathsRequest) : Json :=
  if r.json then .string "CRITICAL"
  else
    match r.logLevel with
    | some level => .string level
    | none => .array []

end PathsRequest

/-- End with a message about the arguments. -/
def refuse (message : String) : Launch α := do
  modify (·.printError (pathsUsage ++ "bootdriver-paths: error: " ++ message ++ "\n"))
  throw (.exit (.int 2))

/-- Read the arguments. Help and a message about the arguments end the command. -/
def readPathsRequest (args : List String) : Launch PathsRequest := do
  match read pathsSwitches (· = .help) args with
  | .error message => refuse message
  | .ok p =>
    if p.settings.any (·.meaning = .help) then
      modify (·.print pathsHelp)
      throw (.exit (.int 0))
    else if p.extras ≠ [] then refuse ("unrecognized arguments: " ++ " ".intercalate p.extras)
    else pure (.ofSettings p.settings)

/-! ## The summary -/

/-- What the command shows. -/
structure Summary where
  home : String
  searchPath : String
  locators : List String
  failures : List String
  diagnostics : List String
  deriving DecidableEq, Repr

namespace Summary

/-- The summary of a context. -/
def ofContext (c : Context) : Summary :=
  { home := c.homeDisplay
    searchPath := c.path.value
    locators := c.path.paths
    failures := c.failures.map Fault.message
    diagnostics := c.diagnostics }

/-- The summary as a document. -/
def toJson (s : Summary) : Json :=
  .object [("home", .string s.home), ("search_path", .string s.searchPath),
    ("locators", .strings s.locators), ("failures", .strings s.failures),
    ("diagnostics", .strings s.diagnostics)]

/-- The summary as lines of text. -/
def toText (s : Summary) : String :=
  String.join ((("home: " ++ s.home) :: s.locators.map ("  " ++ ·) ++
    s.diagnostics.map ("WARN " ++ ·) ++ s.failures.map ("FAIL " ++ ·)).map (· ++ "\n"))

/-- The summary as it is printed. -/
def print (s : Summary) (json : Bool) : String :=
  if json then s.toJson.toLines ++ "\n" else s.toText

end Summary

/-- Run the command. The answer is the exit status. -/
def paths (args : List String) : Launch Int := do
  let request ← readPathsRequest args
  let _ ← Launch.configureLogging request.level none
  let c ← Launch.noted ((← get).host.prepare (← get).environment)
  modify (·.print ((Summary.ofContext c).print request.json))
  pure (if c.failures = [] then 0 else 1)

end Launcher.CommandLine
