-- SUMMARY: The first search path: every archive in the library folders of a home.
import Launcher.Archive
import Launcher.Home

/-!
# Assembly

Each archive in the library folders gives a locator and a segment of the search path, or a
failure. Each folder that cannot be listed gives a diagnostic. Assemblies add up, entry by
entry and folder by folder.
-/
namespace Launcher

/-- What scanning the library folders comes to. -/
structure Assembly where
  locators : List Locator := []
  segments : List String := []
  failures : List Fault := []
  diagnostics : List String := []

namespace Assembly

/-- One assembly after another. -/
def append (a b : Assembly) : Assembly :=
  { locators := a.locators ++ b.locators
    segments := a.segments ++ b.segments
    failures := a.failures ++ b.failures
    diagnostics := a.diagnostics ++ b.diagnostics }

instance : Append Assembly := ⟨append⟩

@[simp] theorem append_locators (a b : Assembly) :
    (a ++ b).locators = a.locators ++ b.locators := rfl
@[simp] theorem append_segments (a b : Assembly) :
    (a ++ b).segments = a.segments ++ b.segments := rfl
@[simp] theorem append_failures (a b : Assembly) :
    (a ++ b).failures = a.failures ++ b.failures := rfl
@[simp] theorem append_diagnostics (a b : Assembly) :
    (a ++ b).diagnostics = a.diagnostics ++ b.diagnostics := rfl

/-- Assemblies one after another. -/
def join : List Assembly → Assembly
  | [] => {}
  | a :: as => a ++ join as

@[simp] theorem join_nil : join [] = {} := rfl
@[simp] theorem join_cons (a : Assembly) (as : List Assembly) : join (a :: as) = a ++ join as := rfl

/-- The failure to add an archive. -/
def archiveFailure (cwd : String) (entry : Path) (f : Fault) : Fault :=
  .because (.archiveFailed ("Error adding archive: " ++ (entry.absolute cwd).text)
    (some entry.text)) f

/-- What one archive adds. -/
def ofEntry (cwd : String) (share : Bool) (entry : Path) : Assembly :=
  let segment := shareSource entry.text share
  match Locator.ofSource cwd entry.text segment with
  | .ok locator => { locators := [locator], segments := [segment] }
  | .error f => { failures := [archiveFailure cwd entry f] }

/-- The notices about one archive. -/
def entryNotices (cwd : String) (share : Bool) (entry : Path) : List Notice :=
  match Locator.ofSource cwd entry.text (shareSource entry.text share) with
  | .ok _ => []
  | .error f => [.archiveRejected entry.text f.message]

/-- What one folder adds. -/
def ofScan (cwd : String) (share : Bool) (s : Scan) : Assembly :=
  ({ diagnostics := s.diagnostics } : Assembly) ++ join (s.entries.map (ofEntry cwd share))

/-- The notices about one folder. -/
def scanNotices (cwd : String) (share : Bool) (s : Scan) : List Notice :=
  s.notice :: s.entries.flatMap (entryNotices cwd share)

end Assembly

/-- Scan folders, in order. -/
def Host.scanAll (h : Host) (suffixes : List String) : List Path → Except Fault (List Scan)
  | [] => .ok []
  | folder :: folders =>
    match h.scan folder suffixes false with
    | .error f => .error f
    | .ok s =>
      match h.scanAll suffixes folders with
      | .error f => .error f
      | .ok ss => .ok (s :: ss)

/-- Assemble the archives of a home. A home that is not known gives a diagnostic. -/
def Host.assemble (h : Host) (home : Option Path) (platform : Platform)
    (suffixes : List String) : Noted Assembly :=
  match home with
  | none =>
    { result := .ok { diagnostics := [Notice.unknownHome] }, notices := [.homeUnknown] }
  | some home =>
    match h.scanAll suffixes (libraryFolders home) with
    | .error f => .of (.error f)
    | .ok scans =>
      let share := platform.usesShares
      let a := Assembly.join (scans.map (Assembly.ofScan h.cwd share))
      { result := .ok a
        notices := scans.flatMap (Assembly.scanNotices h.cwd share) ++
          [.assembled a.locators.length a.failures.length] }

end Launcher
