-- SUMMARY: Loggers and the handlers of the root: which records pass, and how loggers come into being.
import Launcher.Logging.Level

/-!
# Loggers

Loggers are named by dotted names. A logger without a level of its own takes that of its
parent, the nearest logger above it when it came into being, and in the end that of the
root. Naming a logger brings it into being and makes the names above it known; a known name
is not a logger yet. When it becomes one, the loggers below it get it for their parent.
-/
namespace Launcher

/-- What a handler does with a record. -/
inductive HandlerKind where
  /-- Writes a line to the standard output. -/
  | standard
  /-- Takes the record and writes nothing. -/
  | silent
  deriving DecidableEq, Repr

/-- A handler of the root logger. -/
structure Handler where
  name : Option String
  kind : HandlerKind
  deriving DecidableEq, Repr

/-- The name of the handler that the launcher installs. -/
def defaultHandlerName : String := "bootdriver-default"

/-- The handler that the launcher installs. -/
def defaultHandler : Handler := { name := some defaultHandlerName, kind := .standard }

/-- A logger other than the root. What it was disabled by is kept as it was given. Without a
    parent of its own it has the root for one. -/
structure Logger where
  level : Level := .unset
  disabled : Json := .bool false
  parent : Option String := none

/-- The state of logging. A known name without a logger stands above the names of loggers. The
    handlers with an unlisted name are not found by it any more. -/
structure Logging where
  root : Level := .number 30
  handlers : List Handler := []
  known : List (String × Option Logger) := []
  unlisted : List String := []

namespace Logging

/-! ## Names -/

/-- Does the name mean the root logger? -/
def isRoot (name : String) : Bool := name = "" || name = "root"

/-- The names above a dotted name, nearest first. Of dots in a row, one in two counts. -/
def namesAbove : Nat → List Char → List String
  | 0, _ => []
  | n + 1, name =>
    match Text.cutLast '.' name with
    | none => []
    | some ([], _) => []
    | some (above, _) => String.ofList above :: namesAbove n above.dropLast

/-- The names above a logger, nearest first. -/
def above (name : String) : List String := namesAbove name.length name.toList

/-! ## Finding and making loggers -/

/-- The logger with a name. -/
def logger? (l : Logging) (name : String) : Option Logger := (l.known.lookup name).join

/-- Set the entry of a name: in its old place, or at the end. -/
def put (known : List (String × Option Logger)) (name : String) (entry : Option Logger) :
    List (String × Option Logger) :=
  if known.any (·.1 = name) then known.map fun e => if e.1 = name then (name, entry) else e
  else known ++ [(name, entry)]

/-- Set a logger. -/
def setLogger (l : Logging) (name : String) (logger : Logger) : Logging :=
  { l with known := put l.known name (some logger) }

/-- Make names known, up to the first that is a logger. -/
def makeKnown (l : Logging) : List String → Logging
  | [] => l
  | name :: names =>
    match l.known.lookup name with
    | some (some _) => l
    | some none => l.makeKnown names
    | none => { l with known := l.known ++ [(name, none)] }.makeKnown names

/-- The name of the logger next above a name. -/
def nearestAbove? (l : Logging) (name : String) : Option String :=
  (above name).find? fun n => (l.logger? n).isSome

/-- The name of the root, for a logger that has it for its parent. -/
def rootName : String := "root"

/-- Give a known name that becomes a logger to a logger below it for its parent. One whose
    parent has a name that starts alike keeps that. -/
def adopt (name child : String) (logger : Logger) : Logger :=
  if name ∈ above child ∧ Text.startsWith (logger.parent.getD rootName) name = false then
    { logger with parent := some name }
  else logger

/-- Give a known name that becomes a logger to the loggers below it for their parent. -/
def adoptAll (l : Logging) (name : String) : Logging :=
  { l with known := l.known.map fun (child, entry) => (child, entry.map (adopt name child)) }

/-- Bring a logger into being, unless it is there. -/
def ensure (l : Logging) (name : String) : Logging :=
  if isRoot name then l
  else
    match l.known.lookup name with
    | some (some _) => l
    | some none =>
      ((l.adoptAll name).setLogger name { parent := l.nearestAbove? name }).makeKnown (above name)
    | none => (l.setLogger name { parent := l.nearestAbove? name }).makeKnown (above name)

/-! ## Levels in force -/

/-- The level in force at a logger. The number bounds the loggers above it. -/
def effectiveFrom (l : Logging) : Nat → Logger → Int
  | 0, logger => logger.level.rank
  | n + 1, logger =>
    if logger.level.rank ≠ 0 then logger.level.rank
    else
      match logger.parent.bind l.logger? with
      | some parent => l.effectiveFrom n parent
      | none => l.root.rank

/-- The level in force under a name. -/
def effective (l : Logging) (name : String) : Int :=
  match l.logger? name with
  | some logger => l.effectiveFrom (name.length + 1) logger
  | none => l.root.rank

/-- Does a record of this rank pass? -/
def isEnabled (l : Logging) (name : String) (rank : Int) : Bool :=
  let disabled := match l.logger? name with
    | some logger => logger.disabled.isSubstantial
    | none => false
  !disabled && 0 < rank && l.effective name ≤ rank

/-! ## The start -/

/-- Logging as a launch finds it: the launcher's own loggers, and no handler. -/
def initial : Logging :=
  ["bootdriver.scanner", "bootdriver.loader", "bootdriver.classpath", "bootdriver.home",
    "bootdriver.driver"].foldl ensure {}

end Logging

end Launcher
