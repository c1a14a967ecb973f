-- SUMMARY: Path lookup in a file system, links followed, and the tests and listings built on it.
import Launcher.FileSystem.Basic

/-!
# Looking up paths

A lookup walks the names of a path from the root, or from the working directory. A process
stands in its working directory, whether it may look up the names above it or not. A link
is replaced by its target; more than forty of them in one lookup are refused. An empty
name, which only the end of a text gives, stands for a separator at the end and asks for
a directory.
-/
namespace Launcher

/-! ## Routes -/

/-- The names that a lookup walks, and whether it starts at the root. -/
structure Route where
  absolute : Bool
  names : List String
  deriving DecidableEq, Repr

/-- The route that a text spells. A separator at its end leaves an empty last name. -/
def Route.ofText (text : String) : Route :=
  { absolute := Text.startsWith text "/"
    names := (Path.names text.toList).map String.ofList ++
      if Text.endsWith text "/" then [""] else [] }

/-- Why a path is refused. -/
inductive Refusal where
  | nul
  | errno (e : Errno)
  deriving DecidableEq, Repr

/-- The number of links that one lookup follows. -/
def linkLimit : Nat := 40

/-! ## Walking -/

/-- Why a name that is not in a directory is refused. -/
def Node.missing (directory : Node) (name : String) : Errno :=
  match directory.longest with
  | some limit => if limit < name.utf8ByteSize then .tooLong else .notFound
  | none => .notFound

theorem Node.missing_ne_loop (directory : Node) (name : String) : directory.missing name ≠ .loop := by
  unfold Node.missing
  split
  · split <;> simp
  · simp

namespace FileSystem

/-- Walk `names` from the directory `here`. A link that has to be followed is handed to
    `onLink` with the place it is met at, its target and the names that remain. -/
def walkWith (fs : FileSystem) (onLink : Location → String → List String → Except Errno Location)
    (follow : Bool) : Location → List String → Except Errno Location
  | here, [] => .ok here
  | here, name :: rest =>
    match fs.node? here with
    | none => .error .notFound
    | some dir =>
      if !dir.isDirectory then .error .notDirectory
      else if name = "" then fs.walkWith onLink follow here rest
      else if !dir.isSearchable then .error .denied
      else if name = "." then fs.walkWith onLink follow here rest
      else if name = ".." then fs.walkWith onLink follow here.dropLast rest
      else
        let next := here ++ [name]
        match fs.node? next with
        | none => .error (dir.missing name)
        | some n =>
          match n.target? with
          | none => fs.walkWith onLink follow next rest
          | some target => if rest = [] ∧ ¬follow then .ok next else onLink here target rest

/-- Walk with at most `budget` links followed. -/
def walk (fs : FileSystem) (follow : Bool) : Nat → Location → List String → Except Errno Location
  | 0 => fs.walkWith (fun _ _ _ => .error .loop) follow
  | budget + 1 => fs.walkWith (fun here target rest =>
      if target = "" then .error .notFound
      else
        let route := Route.ofText target
        fs.walk follow budget (if route.absolute then [] else here) (route.names ++ rest)) follow

end FileSystem

/-! ## The host -/

/-- A file system as a process sees it, from its working directory. -/
structure Host where
  files : FileSystem
  cwd : String

namespace Host

/-- The directory that a route starts from: the root, or the working directory. Nothing keeps a
    process from being in its working directory. -/
def start (h : Host) (absolute : Bool) : Except Errno Location :=
  if absolute then .ok []
  else h.files.unlocked.walk true linkLimit [] ((Path.names h.cwd.toList).map String.ofList)

/-- Walk a route. -/
def walk (h : Host) (follow : Bool) (route : Route) : Except Errno Location :=
  match h.start route.absolute with
  | .error e => .error e
  | .ok here => h.files.walk follow linkLimit here route.names

/-- The location that a text leads to. -/
def locate (h : Host) (follow : Bool) (text : String) : Except Refusal Location :=
  if Text.has '\x00' text then .error .nul
  else if text = "" then .error (.errno .notFound)
  else
    match h.walk follow (.ofText text) with
    | .ok at_ => .ok at_
    | .error e => .error (.errno e)

/-- The entry that a text leads to. -/
def look (h : Host) (follow : Bool) (text : String) : Except Refusal Node :=
  match h.locate follow text with
  | .error e => .error e
  | .ok at_ =>
    match h.files.node? at_ with
    | some n => .ok n
    | none => .error (.errno .notFound)

/-- The entry at the end of all links. -/
def stat (h : Host) (text : String) : Except Refusal Node := h.look true text

/-! ## Tests -/

/-- Test the entry that a path leads to. A path that leads nowhere fails the test; one
    that may not be looked at, or is refused for its length, is an error. -/
def test (h : Host) (text : String) (p : Node → Bool) : Except Fault Bool :=
  match h.stat text with
  | .ok n => .ok (p n)
  | .error .nul => .ok false
  | .error (.errno e) => if e.leadsNowhere then .ok false else .error (Error.system e text : Error)

/-- Does the path lead to a directory? -/
def isDirectory (h : Host) (p : Path) : Except Fault Bool := h.test p.text Node.isDirectory

/-- Does the path lead to a regular file? -/
def isFile (h : Host) (p : Path) : Except Fault Bool := h.test p.text Node.isFile

/-- May the entry be read? A text with a NUL is refused. -/
def mayRead (h : Host) (text : String) : Except Refusal Bool :=
  match h.stat text with
  | .ok n => .ok n.readable
  | .error .nul => .error .nul
  | .error (.errno _) => .ok false

/-- The names in a directory, in listing order, each with its entry. -/
def list (h : Host) (text : String) : Except Refusal (List (String × Node)) :=
  match h.locate true text with
  | .error e => .error e
  | .ok at_ =>
    match h.files.node? at_ with
    | none => .error (.errno .notFound)
    | some dir =>
      if !dir.isDirectory then .error (.errno .notDirectory)
      else if !dir.readable then .error (.errno .denied)
      else .ok ((h.files.children at_).filterMap fun name =>
        (h.files.node? (at_ ++ [name])).map fun n => (name, n))

end Host

end Launcher
