import Cadence.Rule.Stamp
/-!
Summaries of rules in words, such as `every 2 weeks on Monday, Wednesday until
Jan 1 2025`.

The words come from a vocabulary, English by default; the ordinals of month
days (`1st`, `last day`, `2nd to last day`) are always English. A summary
names the unit and interval, then the month days (those counted from the start
ascending, then those counted from the end, nearest the end first), the
weekdays in the order written, the months, the hours, minutes and seconds, and
last the bound. A definition is summed up by its including rule, or, with
only explicit dates, by a phrase for them.
-/
namespace Cadence

/-- The words of a summary, read by position: units from the year, days from Monday, months from
January, positions from the first to the fifth and then the last. -/
structure Vocabulary where
  every : String
  units : List String
  pluralUnits : List String
  dayNames : List String
  monthNames : List String
  monthAbbreviations : List String
  positions : List String
  the : String
  on : String
  inMonths : String
  atHour : String
  atMinute : String
  atSecond : String
  untilWord : String
  forCount : String
  time : String
  times : String
  selectedDates : String
  separator : String
  deriving Repr, Inhabited

/-- The English words. -/
def Vocabulary.english : Vocabulary where
  every := "every"
  units := ["year", "month", "week", "day", "hour", "minute", "second"]
  pluralUnits := ["years", "months", "weeks", "days", "hours", "minutes", "seconds"]
  dayNames := ["Monday", "Tuesday", "Wednesday", "Thursday", "Friday", "Saturday", "Sunday"]
  monthNames := ["January", "February", "March", "April", "May", "June", "July", "August",
    "September", "October", "November", "December"]
  monthAbbreviations := ["Jan", "Feb", "Mar", "Apr", "May", "Jun", "Jul", "Aug", "Sep", "Oct",
    "Nov", "Dec"]
  positions := ["first", "second", "third", "fourth", "fifth", "last"]
  the := "the"
  on := "on"
  inMonths := "in"
  atHour := "at hour"
  atMinute := "at minute"
  atSecond := "at second"
  untilWord := "until"
  forCount := "for"
  time := "time"
  times := "times"
  selectedDates := "on selected dates"
  separator := ", "

/-- The English ordinal of a month day: `1st`, `22nd`, `11th`, `last day`,
`2nd to last day`. -/
def dayOrdinal (day : Int) : String :=
  if day = -1 then "last day"
  else
    let n := day.natAbs
    let suffix :=
      if 11 ≤ n % 100 ∧ n % 100 ≤ 13 then "th"
      else if n % 10 = 1 then "st"
      else if n % 10 = 2 then "nd"
      else if n % 10 = 3 then "rd"
      else "th"
    if day < 0 then toString n ++ suffix ++ " to last day" else toString n ++ suffix

namespace Vocabulary

/-- A weekday of a rule: its name, after `the` and its position if it has one. -/
def describeDay (v : Vocabulary) (d : WeekdayNum) : String :=
  let name := v.dayNames.getD d.weekday.index ""
  match d.position.bind fun p => allowedPositions.idxOf? p with
  | some i => v.the ++ " " ++ v.positions.getD i "" ++ " " ++ name
  | none => name

/-- The summary of a rule. -/
def describeRule (v : Vocabulary) (r : Rule) : String :=
  let unit := r.frequency.index
  let head :=
    if r.interval = 1 then v.every ++ " " ++ v.units.getD unit ""
    else v.every ++ " " ++ toString r.interval ++ " " ++ v.pluralUnits.getD unit ""
  let monthDays :=
    if r.byMonthDay.isEmpty then ""
    else
      let days := r.byMonthDay.filter (· > 0) ++ (r.byMonthDay.reverse.filter (· < 0))
      " " ++ v.on ++ " " ++ v.the ++ " " ++ v.separator.intercalate (days.map dayOrdinal)
  let weekdays :=
    if r.byDay.isEmpty then ""
    else " " ++ v.on ++ " " ++ v.separator.intercalate (r.byDay.map v.describeDay)
  let months :=
    if r.byMonth.isEmpty then ""
    else " " ++ v.inMonths ++ " " ++
      v.separator.intercalate (r.byMonth.map fun m => v.monthNames.getD (m - 1) "")
  let clock (label : String) (values : List Nat) : String :=
    if values.isEmpty then "" else " " ++ label ++ " " ++ v.separator.intercalate (values.map toString)
  let bound := match r.bound with
    | .unbounded => ""
    | .count n => " " ++ v.forCount ++ " " ++ toString n ++ " " ++ (if n = 1 then v.time else v.times)
    | .upTo s =>
      let d := s.calendarDate
      " " ++ v.untilWord ++ " " ++ v.monthAbbreviations.getD (d.month - 1) "" ++ " " ++
        toString d.day ++ " " ++ toString d.year
  head ++ monthDays ++ weekdays ++ months ++ clock v.atHour r.byHour ++
    clock v.atMinute r.byMinute ++ clock v.atSecond r.bySecond ++ bound

/-- The summary of a definition: its including rule, the phrase for explicit
dates when it has only those, and nothing otherwise. -/
def describeDefinition (v : Vocabulary) (d : Definition) : String :=
  match d.rrule with
  | some r => v.describeRule r
  | none => if d.rdates.isEmpty then "" else v.selectedDates

end Vocabulary

end Cadence
