-- SUMMARY: Making the sources of a checkout importable.
import Launcher.FileSystem.Lookup

/-!
# Running from a checkout

A checkout has a directory of sources, which belongs in front of all other search paths.
An installed copy has none, and its search paths stay as they are.
-/
namespace Launcher

/-- Put a directory in front of the search paths, once, if it exists. The answer is `none`
    when it does not. -/
def Host.registerSources (h : Host) (sources : Path) (searchPaths : List String) :
    Except Fault (Option (List String)) :=
  match h.isDirectory sources with
  | .error f => .error f
  | .ok false => .ok none
  | .ok true => .ok (some (sources.text :: searchPaths.filter (· ≠ sources.text)))

end Launcher
