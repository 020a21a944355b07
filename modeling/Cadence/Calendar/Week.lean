import Cadence.Calendar.Date
/-!
Weeks: the start of the week that holds a date, the `n`-th weekday of a range of
days, and every weekday of a range.

Selecting the `n`-th weekday steps first to the nearest matching day inside the
range; that step has no fallback at the edge of the calendar and gives a
`CalendarError`. The further whole weeks give `none` when they leave it.
-/
namespace Cadence

/-- The first day of the week holding `d`, for weeks that begin on `weekStart`. -/
def startOfWeek (d : Date) (weekStart : Weekday) : Option Date :=
  d.addDays? (-(Weekday.daysFrom d.weekday weekStart : Int))

/-- The date `n` days after `d`, where leaving the calendar is an error. -/
def Date.shift (d : Date) (n : Int) : Except CalendarError Date :=
  match d.addDays? n with
  | some e => .ok e
  | none => .error .overflow

/-- The `position`-th `w` of the days `first` to `last`, counted from the end when negative;
position zero, and a day outside the range, give `none`. -/
def selectPositionalWeekday (first last : Date) (w : Weekday) (position : Int) :
    Except CalendarError (Option Date) := do
  let inRange (c : Date) : Option Date := if first ≤ c ∧ c ≤ last then some c else none
  if position > 0 then
    let firstMatch ← first.shift (Weekday.daysFrom w first.weekday)
    return (firstMatch.addDays? (7 * (position - 1))).bind inRange
  else if position < 0 then
    let lastMatch ← last.shift (-(Weekday.daysFrom last.weekday w : Int))
    return (lastMatch.addDays? (-(7 * (-position - 1)))).bind inRange
  else
    return none

/-- Every `w` from `first` to `last`, in order. The walk steps a week past the
last match, so a match within a week of the calendar's end is an error. -/
def weekdaysBetween (first last : Date) (w : Weekday) : Except CalendarError (List Date) := do
  let firstMatch ← first.shift (Weekday.daysFrom w first.weekday)
  if last < firstMatch then
    return []
  else
    let count : Nat := ((last.toDays - firstMatch.toDays) / 7).toNat + 1
    if Date.daysInRange (firstMatch.toDays + 7 * count) then
      return (List.range count).map fun (k : Nat) => Date.ofDays (firstMatch.toDays + 7 * (k : Int))
    else
      throw .overflow

end Cadence
