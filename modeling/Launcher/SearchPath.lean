-- SUMMARY: The search path of a launch, and what adding a path or an archive to it does.
import Launcher.Assembly

/-!
# Search paths

A search path holds the locators that modules are imported from, and the text that is
published for them. An `Extension` is what one addition comes to. It is computed from the
file system alone: the locators in order, the segments to publish, and the fault that
ended the addition early, if any.
-/
namespace Launcher

/-- What one addition to a search path comes to. -/
structure Extension where
  locators : List Locator := []
  segments : List String := []
  fault : Option Fault := none
  notices : List Notice := []

/-- What is added: a locator as it is, or a path that has to be converted. -/
inductive Target where
  | locator (l : Locator)
  | path (value : PathValue)

namespace Host

/-- The archives in a directory that can be opened. Nothing is scanned unless the path
    leads to a directory. -/
def childArchives (h : Host) (directory : Path) : Except Fault (Option Scan) :=
  match h.isDirectory directory with
  | .error f => .error f
  | .ok false => .ok none
  | .ok true =>
    match h.scan directory archiveSuffixes true with
    | .error f => .error f
    | .ok s => .ok (some s)

/-- The locators of archives, up to the first that cannot be converted. -/
def convertAll (h : Host) : List Path → List Locator × Option Fault
  | [] => ([], none)
  | p :: ps =>
    match Locator.ofText h.cwd p.text with
    | .error f => ([], some f)
    | .ok l =>
      let (ls, fault) := h.convertAll ps
      (l :: ls, fault)

end Host

namespace Extension

/-- An addition that was refused before anything was added. -/
def refused (f : Fault) : Extension := { fault := some f }

/-- The notices about locators that were added. -/
def added (ls : List Locator) : List Notice := ls.map fun l => .locatorAdded l.uri

/-- A locator that is added as it is. -/
def ofLocator (l : Locator) : Extension := { locators := [l], notices := added [l] }

/-- `base`, followed by the archives in it when it is a directory. The segments and the
    last notice of a successful addition are those of `close`, applied to the archives. -/
def ofBase (h : Host) (base : Locator) (directory : Path)
    (close : List Path → List String × List Notice) : Extension :=
  match h.childArchives directory with
  | .error f => { locators := [base], fault := some f, notices := added [base] }
  | .ok none =>
    let (segments, last) := close []
    { locators := [base], segments, notices := added [base] ++ last }
  | .ok (some s) =>
    match h.convertAll s.entries with
    | (ls, some f) =>
      { locators := base :: ls, fault := some f
        notices := added [base] ++ s.notice :: added ls }
    | (ls, none) =>
      let (segments, last) := close s.entries
      { locators := base :: ls, segments
        notices := added [base] ++ s.notice :: added ls ++ last }

/-- An addition to the loader alone. -/
def ofUrl (h : Host) (value : PathValue) : Extension :=
  match Locator.ofValue h.cwd value none with
  | .error f => refused f
  | .ok base => ofBase h base (.ofText base.path) fun _ => ([], [])

/-- What adding a path publishes and says in the end. -/
def published (text : String) (archives : List Path) : List String × List Notice :=
  let segments := text :: archives.map Path.text
  (segments, [.pathAdded text segments.length])

/-- An addition to the loader and to the published text. The locator of a directory ends
    with a separator; the segment is the text as it was given. -/
def ofPath (h : Host) (value : PathValue) : Extension :=
  match Locator.ofValue h.cwd value none with
  | .error f => refused f
  | .ok base =>
    let text := base.path
    let directory := Path.ofText text
    match h.isDirectory directory with
    | .error f => refused f
    | .ok false =>
      let (segments, last) := published text []
      { locators := [base], segments, notices := added [base] ++ last }
    | .ok true =>
      if Text.endsWith text "/" then ofBase h base directory (published text)
      else
        match Locator.ofText h.cwd (text ++ "/") with
        | .error f => refused f
        | .ok base => ofBase h base directory (published text)

/-- An addition of either kind of target to the loader alone. -/
def ofTarget (h : Host) : Target → Extension
  | .locator l => ofLocator l
  | .path value => ofUrl h value

/-- Did the addition end well? -/
def result (e : Extension) : Except Fault Unit :=
  match e.fault with
  | none => .ok ()
  | some f => .error f

end Extension

/-! ## Search paths -/

/-- Locators, and the text that is published for them. -/
structure SearchPath where
  locators : List Locator := []
  value : String := ""
  separator : String := ":"

namespace SearchPath

/-- Segments as they follow a text, each after a separator. -/
def suffix (separator : String) (segments : List String) : String :=
  String.join (segments.map (separator ++ ·))

/-- Put segments at the end of the published text. -/
def publish (s : SearchPath) (segments : List String) : SearchPath :=
  { s with value := s.value ++ suffix s.separator segments }

/-- Put locators at the end. -/
def load (s : SearchPath) (ls : List Locator) : SearchPath :=
  { s with locators := s.locators ++ ls }

/-- The paths that modules are looked for in. -/
def paths (s : SearchPath) : List String := s.locators.map Locator.path

end SearchPath

end Launcher
