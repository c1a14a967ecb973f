-- SUMMARY: What the launcher reports about its own work, and computations that keep such reports.
import Launcher.Error

/-!
# Notices

A `Notice` is one thing the launcher has to say; its severity, its source and its text are
computed from it. A `Noted` computation ends in a value or a fault and keeps the notices
made on the way, in order.
-/
namespace Launcher

/-- How serious a notice is. -/
inductive Severity where
  | debug
  | info
  | warning
  | error
  deriving DecidableEq, Repr

/-- The rank that severities are compared by. -/
def Severity.rank : Severity → Int
  | .debug => 10
  | .info => 20
  | .warning => 30
  | .error => 40

/-- What the launcher has to say. -/
inductive Notice where
  | inaccessible (directory : String) (reason : Errno)
  | found (count : Nat) (directory : String)
  | notCanonical (launcher : String) (reason : String)
  | packaged (launcher : String) (home : Option String)
  | overridden (home : String)
  | homeUnknown
  | archiveRejected (entry : String) (reason : String)
  | assembled (locators failures : Nat)
  | locatorAdded (uri : String)
  | pathAdded (path : String) (locators : Nat)
  | initialized (home searchPath : String)
  | starting (name home : String)
  | handOffFailed (name : String)
  deriving DecidableEq, Repr

namespace Notice

/-- The severity of a notice. -/
def severity : Notice → Severity
  | inaccessible .. | homeUnknown => .warning
  | archiveRejected .. => .error
  | pathAdded .. | starting .. => .info
  | _ => .debug

/-- The logger that a notice goes to. -/
def source : Notice → String
  | inaccessible .. | found .. => "bootdriver.scanner"
  | notCanonical .. | packaged .. | overridden .. => "bootdriver.home"
  | homeUnknown | archiveRejected .. | assembled .. | pathAdded .. => "bootdriver.classpath"
  | locatorAdded .. => "bootdriver.loader"
  | initialized .. | starting .. | handOffFailed .. => "bootdriver.driver"

/-- The diagnostic for a directory that cannot be listed. -/
def couldNotAccess (directory : String) : String := "Could not access " ++ directory

/-- The diagnostic for a home that is not known. -/
def unknownHome : String := "Installation directory is unknown; no library folders scanned"

/-- The text of a notice. -/
def text : Notice → String
  | inaccessible directory reason => couldNotAccess directory ++ ": " ++ reason.text
  | found count directory => "Found " ++ toString count ++ " archive(s) in " ++ directory
  | notCanonical launcher reason =>
    "Could not canonicalize launcher path " ++ launcher ++ ": " ++ reason
  | packaged launcher home => "Packaged launch from " ++ launcher ++ ", home=" ++ home.getD "None"
  | overridden home => "Using home override " ++ home
  | homeUnknown => unknownHome
  | archiveRejected entry reason => "Could not add archive " ++ entry ++ ": " ++ reason
  | assembled locators failures =>
    "Assembled " ++ toString locators ++ " locator(s) with " ++ toString failures ++ " failure(s)"
  | locatorAdded uri => "Added locator " ++ uri
  | pathAdded path locators =>
    "Added " ++ path ++ " to the search path (" ++ toString locators ++ " locator(s))"
  | initialized home searchPath =>
    "Initialized with home=" ++ home ++ " search path=" ++ searchPath
  | starting name home => "Starting " ++ name ++ " from " ++ home
  | handOffFailed name => "Hand-off to " ++ name ++ " failed"

end Notice

/-! ## Computations that keep notices -/

/-- A value or a fault, and the notices made on the way. -/
structure Noted (α : Type) where
  result : Except Fault α
  notices : List Notice := []

namespace Noted

/-- A computation that says nothing. -/
def of (result : Except Fault α) : Noted α := { result }

/-- Say something. -/
def say (n : Notice) : Noted Unit := { result := .ok (), notices := [n] }

/-- Go on with the value of a computation, after its notices. -/
def andThen (x : Noted α) (f : α → Noted β) : Noted β :=
  match x.result with
  | .ok a =>
    let y := f a
    { result := y.result, notices := x.notices ++ y.notices }
  | .error e => { result := .error e, notices := x.notices }

instance : Monad Noted where
  pure a := { result := .ok a }
  bind := andThen

@[simp] theorem of_result (r : Except Fault α) : (of r).result = r := rfl
@[simp] theorem of_notices (r : Except Fault α) : (of r).notices = [] := rfl
@[simp] theorem say_result (n : Notice) : (say n).result = .ok () := rfl
@[simp] theorem say_notices (n : Notice) : (say n).notices = [n] := rfl
@[simp] theorem pure_result (a : α) : (pure a : Noted α).result = .ok a := rfl
@[simp] theorem pure_notices (a : α) : (pure a : Noted α).notices = [] := rfl

@[simp] theorem bind_result (x : Noted α) (f : α → Noted β) :
    (x >>= f).result = x.result.bind fun a => (f a).result := by
  change (andThen x f).result = _
  unfold andThen
  cases h : x.result <;> rfl

end Noted

end Launcher
