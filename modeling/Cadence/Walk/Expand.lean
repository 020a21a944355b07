import Cadence.Walk.Period
/-!
The periods of each frequency.

Period `k` of a rule lies `k * interval` years, months, weeks, days, hours,
minutes or seconds after the anchor's. A period that leaves the representable
calendar, or whose step leaves a signed 64-bit count, ends the walk (`none`).

* Yearly: month days in each month of the rule (or of the year), weekday
  positions counted in that month when the rule names months and in the year
  otherwise; else weekdays of the year, or of each month named; else the
  anchor's day in each month named; else the anchor's day and month.
* Monthly: the month's dates (see `Rule.monthDates`), if the month is named.
* Weekly: the week holding the anchor, moved by whole weeks; each weekday of
  the rule (or the anchor's), if its month is named.
* Daily: the anchor's date moved by whole days, if the day filters pass.
* Intraday: the anchor moved on the wall clock. A step rejected by the day,
  hour, minute or second filters has no candidates and its next period is the
  first that can reach past the rejected day, hour, minute or second.
-/
namespace Cadence

/-- The least signed 64-bit count. -/
def countMin : Int := -9223372036854775808
/-- The greatest signed 64-bit count. -/
def countMax : Int := 9223372036854775807

/-- A signed 64-bit count. -/
def inCountRange (n : Int) : Bool := countMin ≤ n && n ≤ countMax

/-- Concatenates the dates of months, stopping with `none` at the first month
that has none. -/
def concatMonths (f : Nat → Except CalendarError (Option (List Date))) :
    List Nat → Except CalendarError (Option (List Date))
  | [] => pure (some [])
  | m :: ms => do
    match ← f m with
    | none => pure none
    | some ds =>
      match ← concatMonths f ms with
      | none => pure none
      | some rest => pure (some (ds ++ rest))

namespace Rule

/-- Period `index` of a yearly rule. -/
def expandYearly (r : Rule) (anchor : WallTime) (index : Int) :
    Except CalendarError (Option Period) := do
  let offset := index * r.interval
  if !inCountRange offset then return none
  let year := anchor.date.year + offset
  let some janFirst := Date.ofYmd? year 1 1 | return none
  let some decLast := Date.ofYmd? year 12 31 | return none
  let yearScope := (janFirst, decLast)
  let months := if r.byMonth.isEmpty then List.range' 1 12 else r.byMonth
  let day := anchor.date.day
  let dates? ←
    if !r.byMonthDay.isEmpty then
      concatMonths (fun m =>
        let scope := if r.byMonth.isEmpty then some yearScope
          else match firstOfMonth year m, lastOfMonth year m with
            | some a, some b => some (a, b)
            | _, _ => none
        match scope with
        | some s => r.monthDates year m day s
        | none => pure none) months
    else if !r.byDay.isEmpty then
      if r.byMonth.isEmpty then some <$> r.expandByDay janFirst decLast
      else concatMonths (fun m => r.monthDates year m day yearScope) months
    else if !r.byMonth.isEmpty then
      pure (some (months.filterMap fun m => Date.ofYmd? year m day))
    else
      pure (some (Date.ofYmd? year anchor.date.month day).toList)
  return dates?.map fun dates => ⟨janFirst.midnight, combineDates dates (r.timesOfDay anchor), index + 1⟩

/-- Period `index` of a monthly rule. -/
def expandMonthly (r : Rule) (anchor : WallTime) (index : Int) :
    Except CalendarError (Option Period) := do
  let offset := index * r.interval
  if !inCountRange offset then return none
  let some (y, m) := advanceMonth anchor.date.year anchor.date.month offset | return none
  let some first := firstOfMonth y m | return none
  let some last := lastOfMonth y m | return none
  let dates? ←
    if r.byMonth.isEmpty || r.byMonth.contains m then r.monthDates y m anchor.date.day (first, last)
    else pure (some [])
  return dates?.map fun dates => ⟨first.midnight, combineDates dates (r.timesOfDay anchor), index + 1⟩

/-- The dates of a week's weekdays, `none` if one leaves the calendar. -/
def weekDates (r : Rule) (weekStart : Date) : List Weekday → Option (List Date)
  | [] => some []
  | w :: ws => do
    let d ← weekStart.addDays? (Weekday.daysFrom w r.weekStart)
    let rest ← r.weekDates weekStart ws
    pure (if r.byMonth.isEmpty || r.byMonth.contains d.month then d :: rest else rest)

/-- Period `index` of a weekly rule. -/
def expandWeekly (r : Rule) (anchor : WallTime) (index : Int) : Option Period := do
  let weeks := index * r.interval
  if !inCountRange weeks then none
  let first ← startOfWeek anchor.date r.weekStart
  let weekStart ← first.addDays? (7 * weeks)
  let weekdays := if r.byDay.isEmpty then [anchor.date.weekday] else r.byDay.map (·.weekday)
  let dates ← r.weekDates weekStart weekdays
  pure ⟨weekStart.midnight, combineDates dates (r.timesOfDay anchor), index + 1⟩

/-- Period `index` of a daily rule. -/
def expandDaily (r : Rule) (anchor : WallTime) (index : Int) : Option Period := do
  let days := index * r.interval
  if !inCountRange days then none
  let date ← anchor.date.addDays? days
  let dates := if r.dayMatches date then [date] else []
  pure ⟨date.midnight, combineDates dates (r.timesOfDay anchor), index + 1⟩

end Rule

/-- Seconds in one step of an intraday frequency. -/
def Frequency.unitSeconds : Frequency → Int
  | .hourly => 3600
  | .minutely => 60
  | _ => 1

/-- The same wall time with its second of the minute replaced. -/
def WallTime.withSecond (t : WallTime) (s : Nat) : WallTime :=
  ⟨t.nanos + ((s : Int) - t.second) * nanosPerSecond⟩

namespace Rule

/-- Period `index` of an hourly, minutely or secondly rule. -/
def expandIntraday (r : Rule) (anchor : WallTime) (index : Int) : Option Period := do
  let step := r.frequency.unitSeconds * r.interval
  let shift := index * step
  if !inCountRange shift then none
  let current ← anchor.addSeconds? shift
  let date := current.date
  let hourStart := WallTime.ofDays date.toDays (current.hour * 3600)
  let skipTo (boundary : WallTime) : Option Period :=
    let gap := (boundary.nanos - current.nanos) / nanosPerSecond
    let periods := max 1 ((gap + step - 1) / step)
    if inCountRange (index + periods) then some ⟨current, [], index + periods⟩ else none
  if !r.dayMatches date then
    let next ← date.addDays? 1
    skipTo next.midnight
  else if !r.byHour.isEmpty && !r.byHour.contains current.hour then
    skipTo (← hourStart.addSeconds? 3600)
  else
    let minuteRejected := !r.byMinute.isEmpty && !r.byMinute.contains current.minute
    let nextMinute : Option Period := do skipTo (← (current.withSecond 0).addSeconds? 60)
    let period (cs : List WallTime) : Option Period :=
      if inCountRange (index + 1) then some ⟨current, cs, index + 1⟩ else none
    match r.frequency with
    | .hourly =>
      period ((valuesOr r.byMinute current.minute).flatMap fun m =>
        (valuesOr r.bySecond current.second).map fun s =>
          ⟨hourStart.nanos + ((m * 60 + s : Nat) : Int) * nanosPerSecond⟩)
    | .minutely =>
      if minuteRejected then nextMinute
      else period ((valuesOr r.bySecond current.second).map current.withSecond)
    | _ =>
      if minuteRejected then nextMinute
      else if !r.bySecond.isEmpty && !r.bySecond.contains current.second then
        skipTo (← current.addSeconds? 1)
      else period [current]

/-- Period `index` of the walk of a rule anchored at `anchor`. -/
def expand (r : Rule) (anchor : WallTime) (index : Int) : Except CalendarError (Option Period) :=
  match r.frequency with
  | .yearly => r.expandYearly anchor index
  | .monthly => r.expandMonthly anchor index
  | .weekly => pure (r.expandWeekly anchor index)
  | .daily => pure (r.expandDaily anchor index)
  | _ => pure (r.expandIntraday anchor index)

end Rule

end Cadence
