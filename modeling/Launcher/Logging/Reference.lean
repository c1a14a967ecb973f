-- SUMMARY: Texts in a logging configuration that stand for other values, and how they are read.
import Launcher.Text.Blank
import Launcher.Text.Pieces
import Launcher.Text.Word

/-!
# References in a configuration

A text `cfg://PATH` in a configuration stands for the value at that place in the same
configuration, and `ext://NAME` for the object of a dotted name. Everything else stands for
itself.
-/
namespace Launcher.Logging

/-! ## Reading references -/

/-- Where the value of a reference is to be found. -/
inductive Scheme where
  /-- In the configuration itself. -/
  | inside
  /-- Among the modules and what they have. -/
  | outside
  deriving DecidableEq, Repr

/-- The scheme with a name. -/
def Scheme.ofName? : List Char → Option Scheme
  | ['c', 'f', 'g'] => some .inside
  | ['e', 'x', 't'] => some .outside
  | _ => none

/-- The text without one newline at its end; it must not have others. -/
def singleLine? (text : List Char) : Option (List Char) :=
  let line := if text.getLast? = some '\n' then text.dropLast else text
  if line.contains '\n' then none else some line

/-- The scheme of a reference, and what follows it. -/
def reference? (text : String) : Option (Scheme × String) :=
  let name := text.toList.takeWhile fun c => 'a' ≤ c && c ≤ 'z'
  match Scheme.ofName? name, Text.afterLead "://".toList (text.toList.drop name.length) with
  | some scheme, some rest => (singleLine? rest).map fun line => (scheme, String.ofList line)
  | _, _ => none

/-! ## Reading paths -/

/-- A step into a value, by a name after a dot or by a name or a number in brackets. -/
inductive PathStep where
  | name (word : String)
  | item (word : String)
  deriving DecidableEq, Repr

/-- A word with the blanks around it taken off, and what comes after them. -/
def readWord? (text : List Char) : Option (String × List Char) :=
  let text := text.dropWhile Text.isBlank
  let word := text.takeWhile Text.isWord
  if word.isEmpty then none
  else some (String.ofList word, (text.drop word.length).dropWhile Text.isBlank)

/-- A step at the start of a text, and what comes after it. -/
def readStep? : List Char → Option (PathStep × List Char)
  | '.' :: text => (readWord? text).map fun (word, rest) => (.name word, rest)
  | '[' :: text =>
    match readWord? text with
    | some (word, ']' :: rest) => some (.item word, rest.dropWhile Text.isBlank)
    | _ => none
  | _ => none

/-- The steps at the start of a text, at most so many, and what comes after them. -/
def readSteps : Nat → List Char → List PathStep × List Char
  | 0, text => ([], text)
  | n + 1, text =>
    match readStep? text with
    | none => ([], text)
    | some (step, rest) =>
      let (steps, rest) := readSteps n rest
      (step :: steps, rest)

/-- A place in a configuration: a field, the steps from there, and what cannot be read. -/
structure ValuePath where
  field : String
  steps : List PathStep
  unread : String
  deriving DecidableEq, Repr

/-- The path that a text writes. -/
def ValuePath.ofText? (text : String) : Option ValuePath :=
  (readWord? text.toList).map fun (field, rest) =>
    let (steps, rest) := readSteps rest.length rest
    { field, steps, unread := String.ofList rest }

end Launcher.Logging
