-- SUMMARY: Launch contexts: what discovery and assembly produce, and how they are extended.
import Launcher.SearchPath

/-!
# Launch contexts

A context joins an environment, the home found in it, the search path and what went wrong
on the way. Its properties publish the text of the search path after each change.
-/
namespace Launcher

/-- Everything that a launch works with. -/
structure Context where
  env : Environment
  home : Option Path
  path : SearchPath
  failures : List Fault := []
  diagnostics : List String := []

namespace Context

/-- How the home is shown. -/
def homeDisplay (c : Context) : String := describeHome c.home

/-- Publish segments, and write the text to the properties. -/
def publish (c : Context) (segments : List String) : Context :=
  let path := c.path.publish segments
  { c with
    path
    env := { c.env with properties := c.env.properties.set searchPathVariable path.value } }

/-- Carry out an extension of the loader alone. -/
def addUrl (c : Context) (e : Extension) : Context := { c with path := c.path.load e.locators }

/-- Carry out an extension of the loader and of the published text. Nothing is published
    when the extension ended early. -/
def addPath (c : Context) (e : Extension) : Context :=
  let c := c.addUrl e
  if e.fault.isNone then c.publish e.segments else c

/-- The context of an assembly. -/
def ofAssembly (env : Environment) (home : Option Path) (a : Assembly) : Context :=
  publish
    { env, home
      path := { locators := a.locators, value := env.searchPath, separator := env.separator }
      failures := a.failures
      diagnostics := a.diagnostics }
    a.segments

end Context

/-- Find the home and assemble its archives. -/
def Host.prepare (h : Host) (env : Environment) : Noted Context := do
  let home ← h.locateHome env
  let assembly ← h.assemble home env.platform archiveSuffixes
  let context := Context.ofAssembly env home assembly
  Noted.say (.initialized context.homeDisplay context.path.value)
  pure context

end Launcher
