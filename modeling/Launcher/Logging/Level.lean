-- SUMMARY: Levels of logging, their names, and which values are accepted for one.
import Launcher.Error
import Launcher.Text.Case

/-!
# Levels

A level is a whole number; a truth value counts as zero or one and is kept as it was
given. A name stands for the level it names.
-/
namespace Launcher

/-- A level as it was set. -/
inductive Level where
  | number (n : Int)
  | flag (b : Bool)
  deriving DecidableEq, Repr

namespace Level

/-- The level that makes a logger take the one above it. -/
def unset : Level := .number 0

/-- The number that levels are compared by. -/
def rank : Level → Int
  | number n => n
  | flag b => if b then 1 else 0

@[simp] theorem rank_number (n : Int) : (number n).rank = n := rfl

/-- The level as a value. -/
def toJson : Level → Json
  | number n => .int n
  | flag b => .bool b

/-- The names of levels. -/
def named : List (String × Int) :=
  [("CRITICAL", 50), ("FATAL", 50), ("ERROR", 40), ("WARN", 30), ("WARNING", 30), ("INFO", 20),
    ("DEBUG", 10), ("NOTSET", 0)]

/-- How a line names the level of a record. -/
def label (rank : Int) : String :=
  match [(50, "CRITICAL"), (40, "ERROR"), (30, "WARNING"), (20, "INFO"), (10, "DEBUG"),
      ((0 : Int), "NOTSET")].lookup rank with
  | some name => name
  | none => "Level " ++ toString rank

/-- The level that a value stands for. -/
def ofJson : Json → Except Fault Level
  | .int n => .ok (number n)
  | .bool b => .ok (flag b)
  | .string s =>
    match named.lookup s with
    | some n => .ok (number n)
    | none => .error (Error.unknownLevel s : Error)
  | v => .error (Error.levelType v.shown : Error)

/-- A value with the letters of a text in upper case. -/
def upperCase : Json → Json
  | .string s => .string (Text.upper s)
  | v => v

end Level

end Launcher
