-- SUMMARY: Scanning a directory for archives.
import Launcher.FileSystem.Lookup
import Launcher.Notice

/-!
# Archives in a directory

A scan lists the children of a directory whose name ends with the suffix of an archive, in
the order of their path texts. A directory that cannot be listed gives a diagnostic
instead of entries.
-/
namespace Launcher

/-- The suffixes of archives. -/
def archiveSuffixes : List String := [".zip", ".whl", ".egg", ".pyz"]

/-- What scanning a directory comes to: the archives in it, or why it cannot be listed. -/
structure Scan where
  directory : Path
  outcome : Except Errno (List Path)

namespace Scan

/-- The archives found. -/
def entries (s : Scan) : List Path :=
  match s.outcome with
  | .ok entries => entries
  | .error _ => []

/-- What there is to say about access to the directory. -/
def diagnostics (s : Scan) : List String :=
  match s.outcome with
  | .ok _ => []
  | .error _ => [Notice.couldNotAccess s.directory.text]

/-- Could the directory be listed? -/
def accessible (s : Scan) : Bool := s.diagnostics.isEmpty

/-- The notice about a scan. -/
def notice (s : Scan) : Notice :=
  match s.outcome with
  | .ok entries => .found entries.length s.directory.text
  | .error e => .inaccessible s.directory.text e

end Scan

/-- Does the name end with one of the suffixes? -/
def hasSuffix (suffixes : List String) (name : String) : Bool :=
  suffixes.any (Text.endsWith name)

/-- Paths in the order of their texts. -/
def sortPaths (paths : List Path) : List Path :=
  paths.mergeSort fun p q => decide (p.text ≤ q.text)

/-- The text that a listing gives for a child of a directory. -/
def Path.entryText (directory : Path) (name : String) : String :=
  directory.text ++ (if Text.endsWith directory.text "/" then "" else "/") ++ name

namespace Host

/-- Is the child of a directory a regular file, links followed? A file is known from the
    listing. Only a link is walked, and it does not matter which characters its name has. -/
def entryIsFile (h : Host) (text : String) (n : Node) : Bool :=
  match n.target? with
  | none => n.isFile
  | some _ =>
    match h.walk true (.ofText text) with
    | .ok at_ => ((h.files.node? at_).map Node.isFile).getD false
    | .error _ => false

/-- Can an archive be opened: is it a regular file, and may it be read? -/
def usable (h : Host) (directory : Path) (name : String) (n : Node) : Except Fault Bool :=
  let text := directory.entryText name
  if !h.entryIsFile text n then .ok false
  else
    match h.mayRead text with
    | .ok readable => .ok readable
    | .error _ => .error (Error.embeddedNul : Error)

/-- Does a child pass: does it have a suffix, and is it usable if that is asked? -/
def admits (h : Host) (directory : Path) (suffixes : List String) (usableOnly : Bool)
    (name : String) (n : Node) : Except Fault Bool :=
  if !hasSuffix suffixes name then .ok false
  else if usableOnly then h.usable directory name n
  else .ok true

/-- The names of the children that pass. -/
def selectNames (h : Host) (directory : Path) (suffixes : List String) (usableOnly : Bool) :
    List (String × Node) → Except Fault (List String)
  | [] => .ok []
  | (name, n) :: rest =>
    match h.admits directory suffixes usableOnly name n with
    | .error f => .error f
    | .ok keep =>
      match h.selectNames directory suffixes usableOnly rest with
      | .error f => .error f
      | .ok names => .ok (if keep then name :: names else names)

/-- Scan a directory for archives, with `usableOnly` for those that can be opened. -/
def scan (h : Host) (directory : Path) (suffixes : List String) (usableOnly : Bool) :
    Except Fault Scan :=
  match h.list directory.text with
  | .error .nul => .error (Error.embeddedNul : Error)
  | .error (.errno e) => .ok { directory, outcome := .error e }
  | .ok listing =>
    match h.selectNames directory suffixes usableOnly listing with
    | .error f => .error f
    | .ok names => .ok { directory, outcome := .ok (sortPaths (names.map directory.child)) }

end Host

end Launcher
