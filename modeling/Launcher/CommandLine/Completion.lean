-- SUMMARY: How the boot command answers a shell that asks it to complete a command line.
import Launcher.Text.Digit
import Launcher.World

/-!
# Completion

A shell asks for completion through a variable, which names the shell and what it wants.
The command has no options to offer: its arguments are the application's. So it offers
nothing, and refuses every request but that of a known shell for completions.
-/
namespace Launcher.CommandLine

/-- The variable that asks the command for completion. -/
def completionVariable : String := "_BOOTDRIVER_COMPLETE"

/-- The variable that holds the words of the line to be completed. -/
def wordsVariable : String := "COMP_WORDS"

/-- The variable that says which of the words is to be completed. -/
def wordVariable : String := "COMP_CWORD"

/-- The shells that can ask for completion. -/
inductive Shell where
  | bash
  | zsh
  | powershell
  | fish
  deriving DecidableEq, Repr

/-- The shell with a name. -/
def Shell.ofName? : String → Option Shell
  | "bash" => some .bash
  | "zsh" => some .zsh
  | "powershell" => some .powershell
  | "fish" => some .fish
  | _ => none

/-- How many digits of a whole number are read at most. -/
def digitLimit : Nat := 4300

/-- Check that a text is a whole number, the place of a word in a line. -/
def checkPlace (text : String) : Except Fault Unit :=
  let digits := Text.leadingDigits text
  if digitLimit < digits then .error (Error.tooManyDigits digits : Error)
  else if Text.isWhole text then .ok ()
  else .error (Error.notWhole text : Error)

/-- The characters that stand between the words of a line. -/
def isBetweenWords (c : Char) : Bool := c = ' ' || c = '\t' || c = '\r' || c = '\n'

/-- Check the text of the word to be completed, which has to be a word if it is not empty. -/
def checkWord (text : String) : Except Fault Unit :=
  if text ≠ "" && text.toList.all isBetweenWords then .error (Error.outsideList : Error) else .ok ()

/-- Check what a shell says of the word to be completed. One gives the word itself, the others
    its place in the line. -/
def Shell.check (text : String) : Shell → Except Fault Unit
  | .bash | .zsh | .powershell => checkPlace text
  | .fish => checkWord text

/-- The shell and the instruction that a request is made of. -/
def completionParts (request : String) : String × String :=
  (Text.beforeAfterFirst '_' request).getD (request, "")

/-- Check that the variables say what is to be completed. -/
def checkWords (vars : Properties) (shell : Shell) : Except Fault Unit :=
  match vars.get? wordsVariable, vars.get? wordVariable with
  | none, _ => .error (Error.unknownKey (Text.quoted wordsVariable) : Error)
  | some _, none => .error (Error.unknownKey (Text.quoted wordVariable) : Error)
  | some _, some word => shell.check word

/-- Answer a request for completion. The answer is the exit status. -/
def complete (request : String) : Launch Int := do
  match completionParts request with
  | (shell, "complete") =>
    match Shell.ofName? shell with
    | none => pure 1
    | some shell =>
      Launch.lift (checkWords (← get).vars shell)
      modify (·.print "\n")
      pure 0
  | _ => pure 1

/-- The request for completion that the variables make, if any. -/
def completionRequest? (vars : Properties) : Option String :=
  (vars.get? completionVariable).filter (· ≠ "")

end Launcher.CommandLine
