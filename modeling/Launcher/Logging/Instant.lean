-- SUMMARY: Moments of time as log lines show them.
import Launcher.Decimal.Binary
import Launcher.Text.Pieces

/-!
# Moments of time

A moment is a number of seconds since the start of 1970, in universal time. One form cuts
it off at the millisecond, the other rounds it to the microsecond and leaves out a
fraction of zero. A year that a form cannot show has no text in it.
-/
namespace Launcher

namespace Decimal

/-- The nearest whole number towards zero. -/
def truncate (x : Float) : Int :=
  match read x with
  | .finite b =>
    let (num, den) := b.quotient
    if b.negative then -((num / den : Nat) : Int) else ((num / den : Nat) : Int)
  | _ => 0

/-- The nearest whole number, a half to the even one. -/
def nearest (x : Float) : Int :=
  match read x with
  | .finite b =>
    let (num, den) := b.quotient
    if b.negative then -(roundHalfEven num den : Int) else (roundHalfEven num den : Int)
  | _ => 0

end Decimal

/-- A day and a time of day. -/
structure Moment where
  year : Int
  month : Nat
  day : Nat
  hour : Nat
  minute : Nat
  second : Nat

namespace Moment

/-- The days before a year of an era. Years start in March here, and an era has 400 of them. -/
def yearStart (year : Nat) : Nat := 365 * year + year / 4 - year / 100 + year / 400

/-- The year of a day of an era. -/
def yearOfEra (day : Nat) : Nat := (day - day / 1460 + day / 36524 - day / 146096) / 365

/-- The days of a year before a month, both counted from March. -/
def monthStart (month : Nat) : Nat := (153 * month + 2) / 5

/-- The month of the calendar, for a month counted from March. -/
def calendarMonth (month : Nat) : Nat := if month < 10 then month + 3 else month - 9

/-- The year of the calendar, for a year that starts in March and a month in it. -/
def calendarYear (year : Int) (month : Nat) : Int :=
  year + if calendarMonth month ≤ 2 then 1 else 0

/-- The moment so many seconds after the start of 1970, by the Gregorian calendar. -/
def ofSeconds (seconds : Int) : Moment :=
  let rest := (seconds % 86400).toNat
  -- days since the first of March of the year 0
  let days := seconds / 86400 + 719468
  let dayOfEra := (days % 146097).toNat
  let year := yearOfEra dayOfEra
  let dayOfYear := dayOfEra - yearStart year
  let month := (5 * dayOfYear + 2) / 153
  { year := calendarYear (year + days / 146097 * 400) month
    month := calendarMonth month
    day := dayOfYear - monthStart month + 1
    hour := rest / 3600, minute := rest / 60 % 60, second := rest % 60 }

/-- A number in at least `width` digits. -/
def pad (width n : Nat) : String := Text.padLeft '0' width (Decimal.digits n)

/-- The time of day. -/
def time (m : Moment) : String := pad 2 m.hour ++ ":" ++ pad 2 m.minute ++ ":" ++ pad 2 m.second

/-- The month and the day in it. -/
def monthDay (m : Moment) : String := pad 2 m.month ++ "-" ++ pad 2 m.day

/-- The moment with a fraction in microseconds, which is left out when it is zero. -/
def stamp (m : Moment) (micros : Nat) : String :=
  pad 4 m.year.toNat ++ "-" ++ m.monthDay ++ "T" ++ m.time ++
    (if micros = 0 then "" else "." ++ pad 6 micros) ++ "+00:00"

end Moment

/-! ## Clocks -/

/-- What a clock shows: whole seconds since the start of 1970, and a fraction of one that has
    the same sign. -/
structure Clock where
  seconds : Int
  fraction : Float

namespace Clock

/-- A clock that shows a whole number of seconds. -/
def ofInt (n : Int) : Clock := { seconds := n, fraction := 0.0 }

/-- A clock that shows a number of seconds. -/
def ofFloat (x : Float) : Clock :=
  let whole := Decimal.truncate x
  { seconds := whole, fraction := x - Float.ofInt whole }

/-- The years that a text line can show. -/
def hasTextYear (year : Int) : Bool := -2147481748 ≤ year && year ≤ 2147483647

/-- The years that a JSON line can show. -/
def hasStampYear (year : Int) : Bool := 1 ≤ year && year ≤ 9999

/-- The time as text lines show it, cut off at the millisecond, if they can show the year. -/
def text? (c : Clock) : Option String :=
  let millis := Decimal.truncate (c.fraction * 1000.0)
  let m := Moment.ofSeconds (if c.fraction < 0.0 then c.seconds - 1 else c.seconds)
  if hasTextYear m.year then
    some (toString m.year ++ "-" ++ m.monthDay ++ " " ++ m.time ++ "," ++
      (if millis < 0 then "-" else "") ++ Moment.pad (if millis < 0 then 2 else 3) millis.natAbs)
  else none

/-- The time in microseconds, rounded. -/
def micros (c : Clock) : Int := c.seconds * 1000000 + Decimal.nearest (c.fraction * 1000000.0)

/-- The time as JSON lines show it, rounded to the microsecond, if they can show the year. -/
def stamp? (c : Clock) : Option String :=
  let m := Moment.ofSeconds (c.micros / 1000000)
  if hasStampYear m.year then some (m.stamp (c.micros % 1000000).toNat) else none

end Clock

end Launcher
