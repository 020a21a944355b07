import Cadence.Walk.Expand
import Cadence.Rule.Stamp
import Cadence.Stream.Source
/-!
The walk of a rule: its occurrences from an anchor in a zone, in ascending
order.

The walk expands period after period. Each candidate before the anchor (on the
wall clock) is dropped; the others are resolved in the zone (a time in a gap
moves an hour later, of two instants the earlier is taken) and kept if later
than every instant kept before. The walk ends at the first instant past its
end (`UNTIL` read as the last instant it covers, or an earlier horizon), when
`COUNT` instants have been kept, when a period starts more than a day after
the end's date, when a period leaves the calendar, or after
`maxEmptyPeriods` periods in a row that kept nothing. An end that cannot be
shown on the zone's wall clock (the last instant of the calendar, east of
UTC) is an error once a period is compared with it.
-/
namespace Cadence

/-- Periods in a row without an occurrence after which a walk gives up. -/
def maxEmptyPeriods : Nat := 100000

instance : Ord ZonedTime := ⟨fun a b => compare a.instant.nanos b.instant.nanos⟩

/-- The state of a walk. -/
structure Walk where
  rule : Rule
  zone : TimeZone
  /-- The anchor on the zone's wall clock. -/
  anchor : WallTime
  /-- The last instant the walk may give. -/
  upTo : Option ZonedTime
  /-- Occurrences still to give under `COUNT`. -/
  remaining : Option Nat
  /-- The index of the next period to expand. -/
  period : Int
  /-- Occurrences found and not yet given, from `pos` on. -/
  buffer : Array ZonedTime
  pos : Nat
  /-- The instant of the last occurrence kept. -/
  last : Option Instant
  finished : Bool

namespace Walk

/-- The walk of a rule anchored at `start` in `zone`. -/
def start (r : Rule) (zone : TimeZone) (start : ZonedTime) : Walk where
  rule := r
  zone := zone
  anchor := start.wall
  upTo := r.upTo?.bind (·.resolveUpper zone)
  remaining := r.count?
  period := 0
  buffer := #[]
  pos := 0
  last := none
  finished := r.count? = some 0

/-- Ends the walk at a horizon too, whichever end comes first. -/
def withHorizon (w : Walk) (horizon : Option ZonedTime) : Walk :=
  match horizon with
  | none => w
  | some h => { w with upTo := some (match w.upTo with
      | some u => if h.instant < u.instant then h else u
      | none => h) }

/-- The period starts more than a day after the date of the walk's end on the
zone's wall clock; an end whose wall time leaves the calendar is an error. -/
def pastEnd (w : Walk) (periodStart : WallTime) : Except CalendarError Bool :=
  match w.upTo with
  | none => pure false
  | some u =>
    if !u.wall.inRange then throw .overflow
    else match u.wall.date.addDays? 1 with
      | some limit => pure (decide (periodStart.date > limit))
      | none => pure false

/-- Keeps the candidates of a period, in order, until the walk ends. -/
def absorb (w : Walk) : List WallTime → Walk
  | [] => w
  | c :: cs =>
    if c < w.anchor then w.absorb cs
    else match w.zone.resolve c with
      | none => w.absorb cs
      | some t =>
        if (w.upTo.map fun u => decide (t.instant > u.instant)) = some true then
          { w with finished := true }
        else if (w.last.map fun l => decide (t.instant ≤ l)) = some true then w.absorb cs
        else
          let w := { w with last := some t.instant, buffer := w.buffer.push t }
          match w.remaining with
          | some (k + 1) =>
            if k = 0 then { w with remaining := some 0, finished := true }
            else { w with remaining := some k }.absorb cs
          | _ => w.absorb cs

/-- Expands periods until one keeps an occurrence or the walk ends; `fuel`
is the number of empty periods still allowed. -/
def fill (w : Walk) : Nat → Except CalendarError Walk
  | 0 => pure { w with finished := true }
  | fuel + 1 =>
    if w.pos < w.buffer.size || w.finished then pure w
    else do
      match ← w.rule.expand w.anchor w.period with
      | none => pure { w with finished := true }
      | some p =>
        if ← w.pastEnd p.start then pure { w with finished := true }
        else
          let w := ({ w with period := p.next, buffer := #[], pos := 0 } : Walk).absorb p.candidates
          if w.buffer.size = 0 then
            if fuel = 0 then pure { w with finished := true } else w.fill fuel
          else pure w

/-- The next occurrence. -/
def next? (w : Walk) : Except CalendarError (Option (ZonedTime × Walk)) := do
  let w ← if w.pos < w.buffer.size then pure w else w.fill maxEmptyPeriods
  if h : w.pos < w.buffer.size then pure (some (w.buffer[w.pos], { w with pos := w.pos + 1 }))
  else pure none

/-- No walk gives more occurrences than there are instants in the calendar. -/
def instantCount : Nat := (Instant.last.nanos - Date.minDays * nanosPerDay).toNat + 1

instance : Source Walk ZonedTime where
  next? := next?
  remaining _ := instantCount

end Walk

end Cadence
