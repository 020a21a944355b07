import Cadence.Calendar.Moment
import Cadence.Text.Blank
/-!
Text forms of dates and moments.

Years 0 to 9999 are written with four digits; other years with a sign and at
least four digits (`-0001`, `+10000`). A fraction of a second is left out when
it is zero, and otherwise written with three, six or nine digits, the fewest
that show it exactly. Offsets are written as `±HH:MM:SS`.

Reading accepts RFC 3339 date-times (`2024-01-01T09:00:00.5+05:30`), dates
`YYYY-MM-DD` whose year may carry a sign, wall times `YYYY-MM-DDTHH:MM:SS`
and times of day `HH:MM:SS`.
-/
namespace Cadence

open Cadence.Text

/-- The year as written in dates. -/
def renderYear (y : Int) : String :=
  if 0 ≤ y ∧ y ≤ 9999 then padNat 4 y.toNat
  else (if y < 0 then "-" else "+") ++ padNat 4 y.natAbs

/-- The fraction of a second: empty, or a point and three, six or nine digits. -/
def renderFraction (nano : Nat) : String :=
  if nano = 0 then ""
  else if nano % 1000000 = 0 then "." ++ padNat 3 (nano / 1000000)
  else if nano % 1000 = 0 then "." ++ padNat 6 (nano / 1000)
  else "." ++ padNat 9 nano

/-- An offset east of UTC as `±HH:MM:SS`. -/
def renderOffset (offset : Int) : String :=
  let a := offset.natAbs
  (if offset < 0 then "-" else "+") ++ padNat 2 (a / 3600) ++ ":" ++ padNat 2 (a / 60 % 60) ++
    ":" ++ padNat 2 (a % 60)

namespace Date

/-- `YYYY-MM-DD`. -/
def render (d : Date) : String :=
  renderYear d.year ++ "-" ++ padNat 2 d.month ++ "-" ++ padNat 2 d.day

/-- `YYYYMMDD`, the compact form of iCalendar. -/
def renderCompact (d : Date) : String :=
  renderYear d.year ++ padNat 2 d.month ++ padNat 2 d.day

end Date

namespace WallTime

/-- `HH:MM:SS`. -/
def renderClock (t : WallTime) : String :=
  padNat 2 t.hour ++ ":" ++ padNat 2 t.minute ++ ":" ++ padNat 2 t.second

/-- `YYYY-MM-DDTHH:MM:SS` with no fraction. -/
def renderSeconds (t : WallTime) : String :=
  t.date.render ++ "T" ++ t.renderClock

/-- `YYYY-MM-DDTHH:MM:SS` and the fraction of a second. -/
def render (t : WallTime) : String :=
  t.renderSeconds ++ renderFraction t.nano

/-- `YYYYMMDDTHHMMSS`, the compact form of iCalendar. -/
def renderCompact (t : WallTime) : String :=
  t.date.renderCompact ++ "T" ++ padNat 2 t.hour ++ padNat 2 t.minute ++ padNat 2 t.second

end WallTime

/-- `YYYY-MM-DDTHH:MM:SS.fZ`. -/
def Instant.render (t : Instant) : String :=
  (t.toWall 0).render ++ "Z"

/-- The zone's wall clock with its offset: `YYYY-MM-DDTHH:MM:SS.f±HH:MM:SS`. -/
def ZonedTime.render (z : ZonedTime) : String :=
  z.wall.render ++ renderOffset z.offset

/-- Splits off exactly `n` decimal digits and reads them. -/
def takeDigits (n : Nat) (cs : List Char) : Option (Nat × List Char) :=
  (digitsValue? (cs.take n)).bind fun v => if (cs.take n).length = n then some (v, cs.drop n) else none

/-- Expects one character. -/
def expectChar (c : Char) : List Char → Option (List Char)
  | d :: rest => if c = d then some rest else none
  | [] => none

/-- Reads nanoseconds from a run of digits: the first nine count and the rest
are skipped. -/
def readFraction (cs : List Char) : Option (Nat × List Char) :=
  let ds := cs.takeWhile isDigit
  if ds.isEmpty then none
  else
    let nine := (ds.take 9) ++ List.replicate (9 - min 9 ds.length) '0'
    (digitsValue? nine).map fun v => (v, cs.dropWhile isDigit)

/-- A time of day `HH:MM:SS` as seconds since midnight. -/
def readClock (cs : List Char) : Option (Nat × List Char) := do
  let (h, cs) ← takeDigits 2 cs
  let cs ← expectChar ':' cs
  let (m, cs) ← takeDigits 2 cs
  let cs ← expectChar ':' cs
  let (s, cs) ← takeDigits 2 cs
  if h < 24 ∧ m < 60 ∧ s < 60 then some (h * 3600 + m * 60 + s, cs) else none

/-- An RFC 3339 offset: `Z`, `z`, or a sign (a minus sign U+2212 included) with
`HH:MM`, at most 23:59. -/
def readOffset : List Char → Option (Int × List Char)
  | 'Z' :: cs => some (0, cs)
  | 'z' :: cs => some (0, cs)
  | c :: cs => do
    let sign : Int ← if c = '+' then some 1 else if c = '-' ∨ c = '−' then some (-1) else none
    let (h, cs) ← takeDigits 2 cs
    let cs ← expectChar ':' cs
    let (m, cs) ← takeDigits 2 cs
    if h < 24 ∧ m < 60 then some (sign * (h * 3600 + m * 60), cs) else none
  | [] => none

/-- A date with a four-digit year, `YYYY-MM-DD`. -/
def readDate4 (cs : List Char) : Option (Date × List Char) := do
  let (y, cs) ← takeDigits 4 cs
  let cs ← expectChar '-' cs
  let (m, cs) ← takeDigits 2 cs
  let cs ← expectChar '-' cs
  let (d, cs) ← takeDigits 2 cs
  let date ← Date.ofYmd? y m d
  some (date, cs)

/-- An RFC 3339 date-time, `T`, `t` or a space between date and time. -/
def Instant.ofRfc3339? (s : String) : Option Instant := do
  let (date, cs) ← readDate4 s.toList
  let cs ← match cs with
    | c :: rest => if c = 'T' ∨ c = 't' ∨ c = ' ' then some rest else none
    | [] => none
  let (sod, cs) ← readClock cs
  let (nano, cs) ← match cs with
    | '.' :: rest => readFraction rest
    | _ => some (0, cs)
  let (offset, cs) ← readOffset cs
  if cs.isEmpty then
    let wall : WallTime := ⟨(date.toDays * secondsPerDay + sod) * nanosPerSecond + nano⟩
    let t := wall.toInstant offset
    if t.inRange then some t else none
  else none

/-- A year with an optional sign. -/
def readYear (cs : List Char) : Option (Int × List Char) :=
  let (sign, rest) : Int × List Char := match cs with
    | '+' :: r => (1, r)
    | '-' :: r => (-1, r)
    | r => (1, r)
  let ds := rest.takeWhile isDigit
  (digitsValue? ds).map fun v => (sign * v, rest.dropWhile isDigit)

/-- A date `YYYY-MM-DD` of the representable calendar; the year may carry a sign. -/
def readDate (cs : List Char) : Option (Date × List Char) := do
  let (y, cs) ← readYear cs
  let cs ← expectChar '-' cs
  let (m, cs) ← takeDigits 2 cs
  let cs ← expectChar '-' cs
  let (d, cs) ← takeDigits 2 cs
  let date ← Date.ofYmd? y m d
  some (date, cs)

/-- A whole text that is a date. -/
def Date.ofText? (s : String) : Option Date := do
  let (d, rest) ← readDate s.toList
  if rest.isEmpty then some d else none

/-- A whole text `YYYY-MM-DDTHH:MM:SS`. -/
def WallTime.ofText? (s : String) : Option WallTime := do
  let (d, cs) ← readDate s.toList
  let cs ← expectChar 'T' cs
  let (sod, cs) ← readClock cs
  if cs.isEmpty then some ⟨(d.toDays * secondsPerDay + sod) * nanosPerSecond⟩ else none

/-- A whole text `HH:MM:SS`, as seconds since midnight. -/
def clockOfText? (s : String) : Option Nat := do
  let (sod, cs) ← readClock s.toList
  if cs.isEmpty then some sod else none

end Cadence
