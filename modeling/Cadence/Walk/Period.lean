import Cadence.Rule.Basic
import Cadence.Calendar.Month
import Cadence.Calendar.Week
/-!
The candidates of one period of a rule's walk, and the day selections they are
built from.

A period is one year, month, week or day of a rule, or one step of an
intraday rule. Its candidates are wall-clock times in ascending order: the
selected dates, each at every time of day the rule names (its hours, minutes
and seconds, each defaulting to the anchor's). Selecting a positioned weekday
can step past the end of the calendar, which is an error.
-/
namespace Cadence

/-- The candidates of one period of a walk, with the index of the next period
worth expanding. -/
structure Period where
  start : WallTime
  candidates : List WallTime
  next : Int
  deriving Repr, Inhabited

/-- The time `secondOfDay` seconds after midnight of the day `days` after
1970-01-01. -/
def WallTime.ofDays (days : Int) (secondOfDay : Nat) : WallTime :=
  ⟨(days * secondsPerDay + secondOfDay) * nanosPerSecond⟩

/-- Midnight of a date. -/
def Date.midnight (d : Date) : WallTime := WallTime.ofDays d.toDays 0

/-- The given values, or the fallback when there are none. -/
def valuesOr (values : List Nat) (fallback : Nat) : List Nat :=
  if values.isEmpty then [fallback] else values

/-- Whether some element passes a test that may fail, stopping at the first
that passes. -/
def anyE {α ε : Type} (f : α → Except ε Bool) : List α → Except ε Bool
  | [] => pure false
  | x :: xs => do if (← f x) then pure true else anyE f xs

/-- Seconds since midnight of the time `h:m:s`, when it is a time of a day: an
hour below 24 and a minute and second below 60. -/
def clockSeconds? (h m s : Nat) : Option Nat :=
  if h < 24 ∧ m < 60 ∧ s < 60 then some (h * 3600 + m * 60 + s) else none

namespace Rule

/-- The times of day of a matching day in seconds, ascending: each hour, minute and second of the
rule (by default the anchor's), less those that are no time of a day. -/
def timesOfDay (r : Rule) (anchor : WallTime) : List Nat :=
  (valuesOr r.byHour anchor.hour).flatMap fun h =>
    (valuesOr r.byMinute anchor.minute).flatMap fun m =>
      (valuesOr r.bySecond anchor.second).filterMap fun s => clockSeconds? h m s

/-- The month, month-day and weekday filters that limit daily and finer rules;
positions of weekdays are not looked at. -/
def dayMatches (r : Rule) (d : Date) : Bool :=
  (r.byMonth.isEmpty || r.byMonth.contains d.month) &&
  (r.byMonthDay.isEmpty || r.byMonthDay.any fun day => selectMonthDay d.year d.month day = some d) &&
  (r.byDay.isEmpty || r.byDay.any fun wd => wd.weekday = d.weekday)

/-- The dates from `first` to `last` that the weekdays of the rule select, in
the order of the weekdays. -/
def expandByDay (r : Rule) (first last : Date) : Except CalendarError (List Date) :=
  List.foldlM (fun acc wd => match wd.position with
    | some p => do pure (acc ++ (← selectPositionalWeekday first last wd.weekday p).toList)
    | none => do pure (acc ++ (← weekdaysBetween first last wd.weekday)))
    [] r.byDay

end Rule

/-- A date falls on a weekday of a `BYDAY` part, at its position counted
within `first` to `last` when it has one. -/
def WeekdayNum.matches (wd : WeekdayNum) (d first last : Date) : Except CalendarError Bool :=
  if wd.weekday ≠ d.weekday then pure false
  else match wd.position with
    | some p => do pure ((← selectPositionalWeekday first last wd.weekday p) = some d)
    | none => pure true

namespace Rule

/-- The dates of one month: month days kept on the rule's weekdays, else its weekdays, else the
anchor's day; `none` when the month is not wholly representable. -/
def monthDates (r : Rule) (y : Int) (m anchorDay : Nat) (scope : Date × Date) :
    Except CalendarError (Option (List Date)) :=
  match firstOfMonth y m, lastOfMonth y m with
  | some first, some last =>
    if !r.byMonthDay.isEmpty then do
      let days := r.byMonthDay.filterMap (selectMonthDay y m)
      let kept ← days.filterM fun d =>
        if r.byDay.isEmpty then pure true else anyE (fun wd => wd.matches d scope.1 scope.2) r.byDay
      pure (some kept)
    else if !r.byDay.isEmpty then do
      pure (some (← r.expandByDay first last))
    else pure (some (Date.ofYmd? y m anchorDay).toList)
  | _, _ => pure none

end Rule

/-- Day counts in ascending order without repeats. -/
def sortedDays (dates : List Date) : List Int :=
  dates.foldl (fun acc d => insertSorted d.toDays acc) []

/-- Every time of day on every date, the dates in order and without repeats. -/
def combineDates (dates : List Date) (times : List Nat) : List WallTime :=
  (sortedDays dates).flatMap fun d => times.map (WallTime.ofDays d)

end Cadence
