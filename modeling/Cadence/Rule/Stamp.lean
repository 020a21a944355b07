import Cadence.Rule.Basic
import Cadence.Calendar.Text
import Cadence.Zone.Resolve
/-!
Compact timestamps: reading and writing `YYYYMMDD`, `YYYYMMDDTHHMMSS` and
`YYYYMMDDTHHMMSSZ`, and finding their instants in a zone.

Reading trims blanks, then takes ASCII text of exactly 8, 15 or 16 characters:
digits, a `T` (either case) after the date, and a final `Z` (either case) for
UTC. The date must exist and the time be below 24:00:00.
-/
namespace Cadence

open Cadence.Text

namespace Stamp

/-- Reads `YYYYMMDD`. -/
def readDate? (cs : List Char) : Option Date := do
  if cs.length = 8 ∧ cs.all isDigit then
    let y ← digitsValue? (cs.take 4)
    let m ← digitsValue? ((cs.drop 4).take 2)
    let d ← digitsValue? (cs.drop 6)
    Date.ofYmd? y m d
  else none

/-- Reads `YYYYMMDDTHHMMSS`. -/
def readDateTime? (cs : List Char) : Option WallTime := do
  if cs.length = 15 ∧ (cs[8]? = some 'T' ∨ cs[8]? = some 't') then
    let d ← readDate? (cs.take 8)
    let time := cs.drop 9
    if time.all isDigit then
      let h ← digitsValue? (time.take 2)
      let m ← digitsValue? ((time.drop 2).take 2)
      let s ← digitsValue? (time.drop 4)
      if h < 24 ∧ m < 60 ∧ s < 60 then some (WallTime.ofDate d h m s) else none
    else none
  else none

/-- Reads one of the three compact forms. -/
def ofText? (value : String) : Option Stamp :=
  let v := trim value
  if !isAscii v then none
  else
    let cs := v.toList
    match cs.length with
    | 8 => (readDate? cs).map .date
    | 15 => (readDateTime? cs).map .wall
    | 16 =>
      if cs.getLast? = some 'Z' ∨ cs.getLast? = some 'z' then
        (readDateTime? cs.dropLast).map .utc
      else none
    | _ => none

/-- The compact text; the letters are written in upper case. -/
def render : Stamp → String
  | .utc t => t.renderCompact ++ "Z"
  | .wall t => t.renderCompact
  | .date d => d.renderCompact

/-- The date as written, whatever the zone. -/
def calendarDate : Stamp → Date
  | .utc t => t.date
  | .wall t => t.date
  | .date d => d

/-- Only a date. -/
def isDate : Stamp → Bool
  | .date _ => true
  | _ => false

/-- The UTC timestamp of an instant. -/
def ofInstant (t : Instant) : Stamp :=
  .utc (t.toWall 0)

/-- The instant in a zone; a date takes the time of day `timeOfDay`, in
nanoseconds since midnight. -/
def resolve (s : Stamp) (z : TimeZone) (timeOfDay : Int) : Option ZonedTime :=
  match s with
  | .utc t => some (z.zonedAt (t.toInstant 0))
  | .wall t => z.resolve t
  | .date d => z.resolve ⟨d.toDays * nanosPerDay + timeOfDay⟩

/-- The last instant the timestamp covers: the end of the day, 23:59:59, for a
date, and the timestamp itself otherwise. -/
def resolveUpper (s : Stamp) (z : TimeZone) : Option ZonedTime :=
  match s with
  | .date _ => s.resolve z ((23 * 3600 + 59 * 60 + 59) * nanosPerSecond)
  | _ => s.resolve z 0

end Stamp

end Cadence
