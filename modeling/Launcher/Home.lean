-- SUMMARY: Discovery of the installation directory.
import Launcher.Environment
import Launcher.FileSystem.Canonical
import Launcher.Notice

/-!
# Discovery of the home

A launcher archive that is alone on the search path lies two levels below the home. Any
other launch takes the override, or else the parent of the working directory.
-/
namespace Launcher

/-- The entries of a search path that are not empty. -/
def searchTokens (searchPath separator : String) : Except Fault (List String) :=
  if separator = "" then .error (Error.emptySeparator : Error)
  else .ok (Text.words separator searchPath)

/-- Is the launcher archive alone on the search path? On macOS one more entry may be there. -/
def isPackagedLaunch (tokens : Int) (platform : Platform) : Bool :=
  tokens == 1 || (tokens == 2 && platform == .macos)

/-- How a home is shown. -/
def describeHome (home : Option Path) : String :=
  match home with
  | some p => p.text
  | none => "<unknown>"

/-- The folders of a home that hold archives, in the order in which they are loaded. -/
def libraryFolders (home : Path) : List Path :=
  [home.descend ["lib"], home.descend ["lib", "ext"], home.descend ["lib", "junit"]]

namespace Host

/-- The directory two levels above the launcher, unless the launcher has no canonical path. -/
def homeOfLauncher (h : Host) (launcher : String) : Noted (Option Path) :=
  match h.canonical (.ofText launcher) with
  | .ok p => pure (some p.parent.parent)
  | .error f =>
    match f.error with
    | .linkLoop _ | .tooDeep => do
      Noted.say (.notCanonical launcher f.message)
      pure none
    | _ => .of (.error f)

/-- The home of an installation. -/
def locateHome (h : Host) (env : Environment) : Noted (Option Path) := do
  let tokens ← Noted.of (searchTokens env.searchPath env.separator)
  if isPackagedLaunch tokens.length env.platform then
    let launcher := tokens.headD ""
    let home ← h.homeOfLauncher launcher
    Noted.say (.packaged launcher (home.map Path.text))
    pure home
  else
    match env.homeOverride with
    | some override =>
      if override ≠ "" then
        Noted.say (.overridden override)
        pure (some (.ofText override))
      else pure (some ((Path.ofText env.cwd).absolute h.cwd).parent)
    | none => pure (some ((Path.ofText env.cwd).absolute h.cwd).parent)

end Host

end Launcher
