-- SUMMARY: Properties, the variables that the launcher reads, and the environment of a launch.
import Launcher.Platform

/-!
# The environment of a launch

Properties map names to texts, as the variables of a process do. An environment holds
everything that discovery and assembly take from the process.
-/
namespace Launcher

/-! ## Properties -/

/-- Names with their values; a name occurs once when `set` alone has built the list. -/
abbrev Properties := List (String × String)

namespace Properties

/-- The value of a name. -/
def get? (ps : Properties) (name : String) : Option String := List.lookup name ps

/-- Give a name a value: in its old place, or at the end. -/
def set : Properties → String → String → Properties
  | [], name, value => [(name, value)]
  | (n, v) :: ps, name, value =>
    if n = name then (name, value) :: ps else (n, v) :: set ps name value

/-- Take a name out. -/
def erase (ps : Properties) (name : String) : Properties := ps.filter (·.1 ≠ name)

theorem get?_set (ps : Properties) (name value other : String) :
    (ps.set name value).get? other = if other = name then some value else ps.get? other := by
  unfold get?
  induction ps with
  | nil =>
    by_cases h : other = name
    · simp [set, h]
    · have hb : (other == name) = false := by simp [h]
      simp [set, List.lookup_cons, h, hb]
  | cons p ps ih =>
    obtain ⟨n, v⟩ := p
    by_cases hn : n = name
    · subst hn
      by_cases ho : other = n
      · simp [set, ho]
      · have hb : (other == n) = false := by simp [ho]
        simp [set, List.lookup_cons, ho, hb]
    · by_cases ho : other = n
      · subst ho
        simp [set, hn]
      · have hb : (other == n) = false := by simp [ho]
        simp only [set, hn, if_false, List.lookup_cons, hb]
        exact ih

@[simp] theorem get?_set_self (ps : Properties) (name value : String) :
    (ps.set name value).get? name = some value := by simp [get?_set]

end Properties

/-! ## Variables -/

/-- The variable that publishes the search path. -/
def searchPathVariable : String := "BOOTDRIVER_CLASSPATH"

/-- The variable that overrides the home. -/
def homeVariable : String := "BOOTDRIVER_HOME"

/-- The variable that names the entry point. -/
def entryPointVariable : String := "BOOTDRIVER_ENTRY_POINT"

/-- The variable that names the configuration of logging. -/
def logConfigVariable : String := "BOOTDRIVER_LOG_CONFIG"

/-- The variable that sets the level of logging. -/
def logLevelVariable : String := "BOOTDRIVER_LOG_LEVEL"

/-- The entry point when none is named. -/
def defaultEntryPoint : String := "app.main:Application"

/-- The level of logging when none is set. -/
def defaultLogLevel : String := "WARNING"

/-- The name of the configuration of logging in a home. -/
def logConfigName : String := "logging.yaml"

/-! ## Environments -/

/-- What discovery and assembly take from the process. -/
structure Environment where
  searchPath : String := ""
  system : String := "Linux"
  cwd : String := "/work/dir"
  homeOverride : Option String := none
  properties : Properties := []
  separator : String := ":"

namespace Environment

/-- The family of the operating system. -/
def platform (env : Environment) : Platform := .detect env.system

/-- The environment of a process. Without a published search path, the search path is the
    program the process was started with. -/
def ofProcess (vars : Properties) (arguments : List String) (system cwd : String) :
    Environment :=
  { searchPath := (vars.get? searchPathVariable).getD (arguments.headD "")
    system, cwd
    homeOverride := vars.get? homeVariable
    properties := vars }

end Environment

/-- The name of the entry point: the one that the variable gives, unless it is empty. -/
def entryPointName (properties : Properties) : String :=
  match properties.get? entryPointVariable with
  | some name => if name = "" then defaultEntryPoint else name
  | none => defaultEntryPoint

end Launcher
