-- SUMMARY: Text without the control sequences that a terminal acts on.

/-!
# Control sequences

A control sequence is an escape character and `[`, then any number of parameter characters
from `0` to `?`, then any number of intermediate characters from the space to `/`, and one
final character from `@` to `~`. What only starts like one is ordinary text.
-/
namespace Launcher.Text

/-- Does the character stand for a parameter? -/
def isParameter (c : Char) : Bool := '0' ≤ c && c ≤ '?'

/-- Does the character come between the parameters and the end? -/
def isIntermediate (c : Char) : Bool := ' ' ≤ c && c ≤ '/'

/-- Does the character end a control sequence? -/
def isFinal (c : Char) : Bool := '@' ≤ c && c ≤ '~'

/-- The length of the control sequence at the start of a text, if there is one. -/
def controlLength : List Char → Option Nat
  | '\x1b' :: '[' :: text =>
    let parameters := text.takeWhile isParameter
    let text := text.dropWhile isParameter
    let intermediates := text.takeWhile isIntermediate
    match text.dropWhile isIntermediate with
    | c :: _ => if isFinal c then some (parameters.length + intermediates.length + 3) else none
    | [] => none
  | _ => none

/-- Pass over `skip` characters, then drop every control sequence. -/
def dropControlsFrom : List Char → Nat → List Char
  | [], _ => []
  | _ :: text, skip + 1 => dropControlsFrom text skip
  | c :: text, 0 =>
    match controlLength (c :: text) with
    | some n => dropControlsFrom text (n - 1)
    | none => c :: dropControlsFrom text 0

/-- A text without its control sequences. -/
def dropControls (text : String) : String := String.ofList (dropControlsFrom text.toList 0)

end Launcher.Text
