import Cadence.Calendar.Moment
import Cadence.Text.Blank
/-!
Recurrence rules of iCalendar (RFC 5545) as values.

A rule repeats at a frequency, every `interval` periods, filtered or expanded by
its `BY` parts, until its bound. The numeric `BY` parts are sets, kept as
ascending lists without repeats; the weekdays keep the order written. A
definition joins an including rule, an excluding rule, and explicit dates on
either side.
-/
namespace Cadence

/-- How often a rule repeats. -/
inductive Frequency where
  | yearly | monthly | weekly | daily | hourly | minutely | secondly
  deriving DecidableEq, Repr, Inhabited

namespace Frequency

/-- All frequencies, coarsest first. -/
def all : List Frequency := [yearly, monthly, weekly, daily, hourly, minutely, secondly]

/-- The code written in rule text. -/
def code : Frequency → String
  | yearly => "YEARLY"
  | monthly => "MONTHLY"
  | weekly => "WEEKLY"
  | daily => "DAILY"
  | hourly => "HOURLY"
  | minutely => "MINUTELY"
  | secondly => "SECONDLY"

/-- Reads a code, ignoring the case of ASCII letters. -/
def ofCode? (s : String) : Option Frequency :=
  all.find? fun f => f.code == Text.asciiUpper s

/-- The place in `all`, coarsest first. -/
def index : Frequency → Nat
  | yearly => 0
  | monthly => 1
  | weekly => 2
  | daily => 3
  | hourly => 4
  | minutely => 5
  | secondly => 6

/-- Finer than a day: the walk steps through the wall clock. -/
def isIntraday : Frequency → Bool
  | hourly | minutely | secondly => true
  | _ => false

end Frequency

/-- The positions allowed before a weekday: the first to fifth, or the last. -/
def allowedPositions : List Int := [1, 2, 3, 4, 5, -1]

/-- A weekday of a `BYDAY` part, with the position of the weekday within the
period when one is written. -/
structure WeekdayNum where
  weekday : Weekday
  position : Option Int
  deriving DecidableEq, Repr, Inhabited

/-- A compact timestamp as written in rule text. -/
inductive Stamp where
  /-- `YYYYMMDDTHHMMSSZ`, read on the UTC clock. -/
  | utc (t : WallTime)
  /-- `YYYYMMDDTHHMMSS`, read on the wall clock of the rule's zone. -/
  | wall (t : WallTime)
  /-- `YYYYMMDD`, a whole day. -/
  | date (d : Date)
  deriving DecidableEq, Repr, Inhabited

/-- How a rule ends: never, after a number of occurrences, or at a timestamp. -/
inductive Bound where
  | unbounded
  | count (n : Nat)
  | upTo (s : Stamp)
  deriving DecidableEq, Repr, Inhabited

/-- A recurrence rule. -/
structure Rule where
  frequency : Frequency
  interval : Nat
  byDay : List WeekdayNum
  byMonth : List Nat
  byMonthDay : List Int
  byHour : List Nat
  byMinute : List Nat
  bySecond : List Nat
  weekStart : Weekday
  bound : Bound
  deriving DecidableEq, Repr, Inhabited

namespace Rule

/-- Every period of the frequency, forever. -/
def every (f : Frequency) : Rule :=
  ⟨f, 1, [], [], [], [], [], [], .mon, .unbounded⟩

/-- The rule never ends. -/
def isUnbounded (r : Rule) : Bool :=
  r.bound = .unbounded

/-- The rule selects days by month, month day or weekday. -/
def hasDayFilters (r : Rule) : Bool :=
  !r.byMonth.isEmpty || !r.byMonthDay.isEmpty || !r.byDay.isEmpty

/-- The count of a counted rule. -/
def count? (r : Rule) : Option Nat :=
  match r.bound with
  | .count n => some n
  | _ => none

/-- The end of a rule bounded by a timestamp. -/
def upTo? (r : Rule) : Option Stamp :=
  match r.bound with
  | .upTo s => some s
  | _ => none

end Rule

/-- A recurrence definition: the occurrences of `rrule` and `rdates`, less
those of `exrule` and `exdates`. -/
structure Definition where
  rrule : Option Rule
  exrule : Option Rule
  rdates : List Stamp
  exdates : List Stamp
  deriving DecidableEq, Repr, Inhabited

/-- Nothing in the definition can give an occurrence. -/
def Definition.isEmpty (d : Definition) : Bool :=
  d.rrule.isNone && d.rdates.isEmpty

/-- Inserts into an ascending list without repeats. -/
def insertSorted {α : Type} [LT α] [DecidableLT α] (x : α) : List α → List α
  | [] => [x]
  | y :: ys => if x < y then x :: y :: ys else if y < x then y :: insertSorted x ys else y :: ys

end Cadence
