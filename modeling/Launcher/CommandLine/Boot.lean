-- SUMMARY: The command that boots the application.
import Launcher.CommandLine.Completion
import Launcher.HandOff

/-!
# The boot command

The command prepares a context from the process itself and runs the application with the
arguments as they are. What the application asks to exit with becomes the exit status. When
a shell asks for completion, the command answers that and boots nothing.
-/
namespace Launcher.CommandLine

/-- The exit status for what an application exits with: nothing substantial is zero, a
    whole number or a truth value is itself, anything else is one. -/
def exitStatus (code : Json) : Json :=
  if !code.isSubstantial then .int 0
  else
    match code with
    | .int n => .int n
    | .bool b => .bool b
    | _ => .int 1

/-- Configure logging, prepare a context and run the application. -/
def bootApplication (args : List String) : Launch Int := do
  let w ← get
  let level := (w.vars.get? logLevelVariable).getD defaultLogLevel
  let _ ← Launch.configureLogging (.string level) none
  let id ← Launch.prepare (← get).environment true
  Launch.runApplication id args none .standardError

/-- Run the command. The answer is the exit status. -/
def boot (args : List String) : Launch Json :=
  tryCatch (do
    match completionRequest? (← get).vars with
    | some request => pure (.int (← complete request))
    | none => pure (.int (← bootApplication args))) fun
    | .exit code => pure (exitStatus code)
    | .interrupt => do
      modify (·.printError "\n")
      throw .abort
    | other => throw other

end Launcher.CommandLine
