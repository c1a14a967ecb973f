-- SUMMARY: The program: runs one of the two commands in a world that is described on the standard input.
import Launcher.CommandLine.Boot
import Launcher.CommandLine.Paths
import Launcher.Description

/-!
# The program

`launcher boot ARGS` boots the application and `launcher paths ARGS` shows the search path,
in the world that the standard input describes. What the command writes is written, and its
exit status is that of the program.
-/
namespace Launcher

/-- The text of the standard input. -/
partial def readInput (input : IO.FS.Stream) (text : String) : IO String := do
  let line ← input.getLine
  if line = "" then pure text else readInput input (text ++ line)

/-- An exit status as the system takes it. -/
def systemStatus : Json → UInt32
  | .int n => UInt32.ofNat (n.emod 256).toNat
  | .bool b => if b then 1 else 0
  | _ => 1

/-- The trace of a launch that ends early, and its exit status. -/
def earlyEnd : Raised → String × UInt32
  | .fault f => (f.trace, 1)
  | .exit code => ("", systemStatus (CommandLine.exitStatus code))
  | .interrupt | .abort => ("Aborted!\n", 1)

/-- Run a command in a world. The answer is the world afterwards, what is left to say and
    the exit status. -/
def runCommand (w : World) : List String → World × String × UInt32
  | "boot" :: args =>
    match (CommandLine.boot args).execute w with
    | (.ok status, w) => (w, "", systemStatus status)
    | (.error raised, w) => (w, earlyEnd raised)
  | "paths" :: args =>
    match (CommandLine.paths args).execute w with
    | (.ok status, w) => (w, "", systemStatus (.int status))
    | (.error raised, w) => (w, earlyEnd raised)
  | _ => (w, "usage: launcher (boot | paths) ARGS\n", 2)

end Launcher

/-- Run the command that the arguments name. -/
def main (args : List String) : IO UInt32 := do
  let input ← Launcher.readInput (← IO.getStdin) ""
  let w := Launcher.Description.world ((Launcher.Json.ofText? input).getD (.object []))
  let (w, message, status) := Launcher.runCommand w args
  IO.print w.output.out
  IO.eprint (w.output.err ++ message)
  pure status
