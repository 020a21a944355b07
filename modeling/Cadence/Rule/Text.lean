import Cadence.Rule.Stamp
/-!
The canonical text of rules and definitions.

A rule is written as `KEY=VALUE` parts joined by `;`, in the order `FREQ`,
`INTERVAL`, `BYDAY`, `BYMONTH`, `BYMONTHDAY`, `BYHOUR`, `BYMINUTE`, `BYSECOND`,
`WKST`, then `COUNT` or `UNTIL`. `INTERVAL` is left out when it is 1, `WKST`
when it is Monday, and each `BY` part when it is empty. A definition is written
as the lines `RRULE:`, `RDATE:`, `EXRULE:` and `EXDATE:`, those with content,
in that order.
-/
namespace Cadence

/-- A number with its sign always written: `+1`, `-1`. -/
def renderSigned (n : Int) : String :=
  if n < 0 then "-" ++ toString n.natAbs else "+" ++ toString n.natAbs

/-- `MO`, `+1MO` or `-1FR`. -/
def WeekdayNum.render (d : WeekdayNum) : String :=
  match d.position with
  | some p => renderSigned p ++ d.weekday.code
  | none => d.weekday.code

/-- Numbers joined by commas. -/
def joinNumbers {α : Type} [ToString α] (xs : List α) : String :=
  ",".intercalate (xs.map toString)

namespace Rule

/-- The parts of the canonical text, in order. -/
def parts (r : Rule) : List String :=
  ["FREQ=" ++ r.frequency.code] ++
  (if r.interval ≠ 1 then ["INTERVAL=" ++ toString r.interval] else []) ++
  (if r.byDay.isEmpty then [] else ["BYDAY=" ++ ",".intercalate (r.byDay.map WeekdayNum.render)]) ++
  (if r.byMonth.isEmpty then [] else ["BYMONTH=" ++ joinNumbers r.byMonth]) ++
  (if r.byMonthDay.isEmpty then [] else ["BYMONTHDAY=" ++ joinNumbers r.byMonthDay]) ++
  (if r.byHour.isEmpty then [] else ["BYHOUR=" ++ joinNumbers r.byHour]) ++
  (if r.byMinute.isEmpty then [] else ["BYMINUTE=" ++ joinNumbers r.byMinute]) ++
  (if r.bySecond.isEmpty then [] else ["BYSECOND=" ++ joinNumbers r.bySecond]) ++
  (if r.weekStart ≠ .mon then ["WKST=" ++ r.weekStart.code] else []) ++
  (match r.bound with
    | .unbounded => []
    | .count n => ["COUNT=" ++ toString n]
    | .upTo s => ["UNTIL=" ++ s.render])

/-- The canonical rule body, without a property name. -/
def render (r : Rule) : String :=
  ";".intercalate r.parts

end Rule

/-- Timestamps joined by commas. -/
def renderStamps (xs : List Stamp) : String :=
  ",".intercalate (xs.map Stamp.render)

/-- The lines of the canonical text of a definition. -/
def Definition.lines (d : Definition) : List String :=
  (match d.rrule with
    | some r => ["RRULE:" ++ r.render]
    | none => []) ++
  (if d.rdates.isEmpty then [] else ["RDATE:" ++ renderStamps d.rdates]) ++
  (match d.exrule with
    | some r => ["EXRULE:" ++ r.render]
    | none => []) ++
  (if d.exdates.isEmpty then [] else ["EXDATE:" ++ renderStamps d.exdates])

/-- The canonical text of a definition, one property per line. -/
def Definition.render (d : Definition) : String :=
  "\n".intercalate d.lines

end Cadence
