-- SUMMARY: Families of operating systems, told apart by name.
import Launcher.Text.Case
import Launcher.Text.Pieces

/-!
# Platforms
-/
namespace Launcher

/-- The families of operating systems that treat paths differently. -/
inductive Platform where
  | windows
  | macos
  | other
  deriving DecidableEq, Repr

namespace Platform

/-- The name of a family. -/
def name : Platform → String
  | windows => "windows"
  | macos => "macos"
  | other => "other"

/-- The family with a given name. -/
def ofName? (name : String) : Option Platform :=
  [windows, macos, other].find? (·.name = name)

/-- The family that an operating system belongs to, whatever the case of its name. -/
def detect (system : String) : Platform :=
  let system := Text.lowerAscii system
  if Text.startsWith system "windows" then windows
  else if Text.startsWith system "mac os x" || Text.startsWith system "darwin" then macos
  else other

/-- Does the family know network shares, written with two leading separators? -/
def usesShares (p : Platform) : Bool := p = windows

end Platform

end Launcher
