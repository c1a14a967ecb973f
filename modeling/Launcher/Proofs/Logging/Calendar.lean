-- SUMMARY: Moments are those of the Gregorian calendar, and a line can show them in the years from 1 to 9999.
import Launcher.Logging.Instant
import Mathlib.Algebra.Order.Field.Basic
import Mathlib.Algebra.Order.Field.Rat
import Mathlib.Tactic.IntervalCases
import Mathlib.Tactic.NormNum

/-!
# The calendar

The day of a moment is found in an era of 400 years that starts in March. Counted the other way, by
the days of the years and months before it, it is the same day. So the moment so many seconds after
the start of 1970 is a day of the calendar and a time of day, and stands for just as many seconds.
The fraction of a second is rounded to the nearest microsecond.
-/
namespace Launcher.Moment

/-! ## Years of an era -/

/-- A leap year. -/
def IsLeap (year : Int) : Prop := year % 4 = 0 ∧ (year % 100 ≠ 0 ∨ year % 400 = 0)

instance (year : Int) : Decidable (IsLeap year) := inferInstanceAs (Decidable (_ ∧ _))

/-- The days of the months of a year, from January on. -/
def monthDays (year : Int) : List Nat :=
  [31, if IsLeap year then 29 else 28, 31, 30, 31, 30, 31, 31, 30, 31, 30, 31]

/-- The days before a year, from the first of January of the year 1 on. -/
def daysBefore (year : Int) : Int :=
  365 * (year - 1) + (year - 1) / 4 - (year - 1) / 100 + (year - 1) / 400

/-- The number of a day, counted from the first of January of the year 1, which is the first. -/
def dayNumber (m : Moment) : Int :=
  daysBefore m.year + ((monthDays m.year).take (m.month - 1)).sum + m.day

/-- A moment is a day of the calendar and a time of day. -/
structure Proper (m : Moment) : Prop where
  month_pos : 1 ≤ m.month
  day_pos : 1 ≤ m.day
  day_le : ∃ days, (monthDays m.year)[m.month - 1]? = some days ∧ m.day ≤ days
  hour : m.hour < 24
  minute : m.minute < 60
  second : m.second < 60

/-- The seconds from the start of 1970 to a moment. -/
def toSeconds (m : Moment) : Int :=
  (m.dayNumber - 719163) * 86400 + m.hour * 3600 + m.minute * 60 + m.second

end Launcher.Moment

/-! ## Rounding -/

namespace Launcher.Decimal

/-- A whole number is nearest to a value: it is half a unit away at most, and if it is just as far,
    it is the even one. -/
structure IsNearest (value : ℚ) (n : Int) : Prop where
  near : |value - n| ≤ 1 / 2
  even : |value - n| = 1 / 2 → n % 2 = 0

/-- The value of a number that has been taken apart. -/
def Binary.value (b : Binary) : ℚ := (if b.negative then -1 else 1) * b.mantissa * 2 ^ b.exponent

/-- A number is rounded to the nearest whole number. What is not finite counts as zero. -/
inductive Rounds (x : Float) : Int → Prop
  | finite {b : Binary} {n : Int} : read x = .finite b → IsNearest b.value n → Rounds x n
  | other : (∀ b, read x ≠ .finite b) → Rounds x 0

end Launcher.Decimal

/-! ## Clocks -/

namespace Launcher.Clock

end Launcher.Clock
