/-!
Civil dates of the proleptic Gregorian calendar.

A date is a year, a month and a day. Arithmetic goes through the day count from
1970-01-01 (`Date.toDays`, `Date.ofDays`). The representable calendar runs from
-262143-01-01 to +262142-12-31; operations that can leave it return `none`, or a
`CalendarError` where the step has no fallback.
-/
namespace Cadence

/-- Days of the week, Monday first. -/
inductive Weekday where
  | mon | tue | wed | thu | fri | sat | sun
  deriving DecidableEq, Repr, Inhabited

namespace Weekday

/-- Days after Monday. -/
def index : Weekday → Nat
  | mon => 0
  | tue => 1
  | wed => 2
  | thu => 3
  | fri => 4
  | sat => 5
  | sun => 6

/-- The weekday `n` days after a Monday. -/
def ofIndex (n : Nat) : Weekday :=
  match n % 7 with
  | 0 => mon
  | 1 => tue
  | 2 => wed
  | 3 => thu
  | 4 => fri
  | 5 => sat
  | _ => sun

theorem index_lt (w : Weekday) : w.index < 7 := by
  cases w <;> decide

@[simp] theorem ofIndex_index (w : Weekday) : ofIndex w.index = w := by
  cases w <;> rfl

/-- The two-letter code of iCalendar. -/
def code : Weekday → String
  | mon => "MO"
  | tue => "TU"
  | wed => "WE"
  | thu => "TH"
  | fri => "FR"
  | sat => "SA"
  | sun => "SU"

/-- All weekdays, Monday first. -/
def all : List Weekday := [mon, tue, wed, thu, fri, sat, sun]

/-- Reads a two-letter code, upper case only. -/
def ofCode? (s : String) : Option Weekday :=
  all.find? (fun w => w.code == s)

/-- Days forward from a `start` day to the next `w` day, zero when they agree. -/
def daysFrom (w start : Weekday) : Nat :=
  (w.index + 7 - start.index) % 7

theorem daysFrom_lt (w start : Weekday) : daysFrom w start < 7 :=
  Nat.mod_lt _ (by decide)

end Weekday

/-- Leap years of the proleptic Gregorian calendar: every fourth year, except
centuries that are not divisible by 400. Year 0 is a leap year. -/
def isLeapYear (y : Int) : Bool :=
  y % 4 == 0 && (y % 100 != 0 || y % 400 == 0)

/-- Days in month `m` of year `y`; zero for a month outside 1..12. -/
def monthLength (y : Int) : Nat → Nat
  | 1 => 31
  | 2 => if isLeapYear y then 29 else 28
  | 3 => 31
  | 4 => 30
  | 5 => 31
  | 6 => 30
  | 7 => 31
  | 8 => 31
  | 9 => 30
  | 10 => 31
  | 11 => 30
  | 12 => 31
  | _ => 0

/-- A calendar date. `Date.ofYmd?` builds only representable ones. -/
structure Date where
  year : Int
  month : Nat
  day : Nat
  deriving DecidableEq, Repr, Inhabited

/-- The first representable year. -/
def minYear : Int := -262143

/-- The last representable year. -/
def maxYear : Int := 262142

namespace Date

/-- Days from 1970-01-01, counted in 400-year eras of 146097 days from March 1
of year 0, so that the leap day closes each counted year. -/
def toDays (d : Date) : Int :=
  let y : Int := if d.month ≤ 2 then d.year - 1 else d.year
  let era : Int := y / 400
  let yoe : Int := y - era * 400
  let mp : Int := if d.month > 2 then (d.month : Int) - 3 else (d.month : Int) + 9
  let doy : Int := (153 * mp + 2) / 5 + d.day - 1
  let doe : Int := yoe * 365 + yoe / 4 - yoe / 100 + doy
  era * 146097 + doe - 719468

/-- The date `n` days after 1970-01-01; the inverse of `toDays` on valid dates. -/
def ofDays (n : Int) : Date :=
  let z : Int := n + 719468
  let era : Int := z / 146097
  let doe : Int := z - era * 146097
  let yoe : Int := (doe - doe / 1460 + doe / 36524 - doe / 146096) / 365
  let doy : Int := doe - (365 * yoe + yoe / 4 - yoe / 100)
  let mp : Int := (5 * doy + 2) / 153
  let d : Int := doy - (153 * mp + 2) / 5 + 1
  let m : Int := if mp < 10 then mp + 3 else mp - 9
  ⟨yoe + era * 400 + (if m ≤ 2 then 1 else 0), m.toNat, d.toNat⟩

/-- Day count of the first representable date, -262143-01-01. -/
def minDays : Int := toDays ⟨minYear, 1, 1⟩

/-- Day count of the last representable date, +262142-12-31. -/
def maxDays : Int := toDays ⟨maxYear, 12, 31⟩

/-- A day count inside the representable calendar. -/
def daysInRange (n : Int) : Bool :=
  minDays ≤ n && n ≤ maxDays

/-- A valid date of the representable calendar. -/
def ofYmd? (y : Int) (m d : Nat) : Option Date :=
  if minYear ≤ y ∧ y ≤ maxYear ∧ 1 ≤ m ∧ m ≤ 12 ∧ 1 ≤ d ∧ d ≤ monthLength y m then
    some ⟨y, m, d⟩
  else none

/-- The date of a day count inside the representable calendar. -/
def ofDays? (n : Int) : Option Date :=
  if daysInRange n then some (ofDays n) else none

/-- The date `n` days later (earlier when `n` is negative), if representable. -/
def addDays? (d : Date) (n : Int) : Option Date :=
  ofDays? (d.toDays + n)

/-- The weekday of the day `n` days after 1970-01-01, a Thursday. -/
def weekdayOfDays (n : Int) : Weekday :=
  Weekday.ofIndex ((n + 3) % 7).toNat

/-- The day of the week. -/
def weekday (d : Date) : Weekday :=
  weekdayOfDays d.toDays

instance : LT Date := ⟨fun a b => a.toDays < b.toDays⟩
instance : LE Date := ⟨fun a b => a.toDays ≤ b.toDays⟩
instance (a b : Date) : Decidable (a < b) := inferInstanceAs (Decidable (a.toDays < b.toDays))
instance (a b : Date) : Decidable (a ≤ b) := inferInstanceAs (Decidable (a.toDays ≤ b.toDays))

end Date

/-- A date step left the representable calendar where the step has no
fallback value. -/
inductive CalendarError where
  | overflow
  deriving DecidableEq, Repr

end Cadence
