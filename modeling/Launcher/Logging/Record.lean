-- SUMMARY: Log records and the two kinds of lines that they are written as.
import Launcher.Json.Display
import Launcher.Json.Printer
import Launcher.Logging.Instant
import Launcher.Logging.Level

/-!
# Log records

A record is written as a line of text, with the trace of its error on the lines below, or
as one JSON object on a line of its own. A record at a time that cannot be shown is not
written.
-/
namespace Launcher

/-- A record that is to be written. -/
structure Record where
  rank : Int
  logger : String
  message : String
  /-- The correlation id that the record brings along. One that is no JSON value is given as the text
      that it is shown as. -/
  correlation : Option Json := none
  /-- The error that the record is about. -/
  fault : Option Fault := none

/-- How records are written: as JSON or as text, under which correlation id, at what time. -/
structure LineStyle where
  json : Bool
  correlation : String
  clock : Clock
  /-- Are all the newlines at the end of a trace taken off, and not one alone? -/
  tight : Bool := false

namespace Record

/-- The name of the logger in a line. -/
def loggerName (r : Record) : String := if r.logger = "" then "root" else r.logger

/-- The correlation id in a line: the record's own, or else that of the process. -/
def correlationIn (r : Record) (style : LineStyle) : Json :=
  r.correlation.getD (.string style.correlation)

/-- The trace of the error, if there is one, without the newline at its end. -/
def trace? (r : Record) (style : LineStyle) : Option String :=
  r.fault.map fun f => if style.tight then Text.trimNewlines f.trace else Text.trimNewline f.trace

/-- A record as text. The trace starts on a line of its own. -/
def textLine (r : Record) (style : LineStyle) (time : String) : String :=
  let line := time ++ " " ++ Level.label r.rank ++ " [" ++
    (r.correlationIn style).display ++ "] " ++ r.loggerName ++ ": " ++ r.message
  match r.trace? style with
  | none => line
  | some trace => line ++ (if Text.endsWith line "\n" then "" else "\n") ++ trace

/-- The fields of a record. -/
def fields (r : Record) (style : LineStyle) (time : String) : List (String × Json) :=
  [("timestamp", .string time),
    ("level", .string (Level.label r.rank)),
    ("logger", .string r.loggerName),
    ("message", .string r.message),
    ("correlation_id", r.correlationIn style)] ++
  match r.trace? style with
  | none => []
  | some trace => [("exception", .string trace)]

/-- A record as JSON. -/
def jsonLine (r : Record) (style : LineStyle) (time : String) : String :=
  Json.toLine (.object (r.fields style time))

/-- A record as it is written, its end of line included. -/
def line? (r : Record) (style : LineStyle) : Option String :=
  if style.json then style.clock.stamp?.map fun time => r.jsonLine style time ++ "\n"
  else style.clock.text?.map fun time => r.textLine style time ++ "\n"

end Record

end Launcher
