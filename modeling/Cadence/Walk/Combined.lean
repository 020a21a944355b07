import Cadence.Walk.Occurrences
/-!
The occurrences of a definition: `(RRULE ∪ RDATE) − (EXRULE ∪ EXDATE)`, as one
ascending source without repeats.

Both rules walk from the same anchor, and a horizon ends both walks; explicit
dates past the horizon are still given. A date-only `RDATE` or `EXDATE` takes
the anchor's time of day, except that a date-only `EXDATE` removes every
occurrence whose date on the zone's wall clock is that date.
-/
namespace Cadence

/-- A walk that may be absent gives no values when absent. -/
instance : Source (Option Walk) ZonedTime where
  next?
    | none => pure none
    | some w => do
      match ← w.next? with
      | none => pure none
      | some (t, w') => pure (some (t, some w'))
  remaining
    | none => 0
    | some w => Source.remaining w

/-- One side of a definition: a rule's walk and explicit instants. -/
abbrev Side := Union (Option Walk) (List ZonedTime) ZonedTime

/-- The occurrences of a definition. -/
structure Combined where
  inner : Difference Side Side ZonedTime
  /-- Dates of the wall clock on which nothing occurs. -/
  excludedDays : List Date

namespace Combined

/-- The next value of the inner source whose date is not excluded, passing at
most `fuel` values. -/
def nextKept (excludedDays : List Date) :
    Nat → Difference Side Side ZonedTime →
      Except CalendarError (Option (ZonedTime × Difference Side Side ZonedTime))
  | 0, _ => pure none
  | fuel + 1, d => do
    match ← Source.next? d with
    | none => pure none
    | some (t, d') => if excludedDays.contains t.wall.date then nextKept excludedDays fuel d'
                      else pure (some (t, d'))

instance : Source Combined ZonedTime where
  next? c := do
    match ← nextKept c.excludedDays (Source.remaining c.inner + 1) c.inner with
    | none => pure none
    | some (t, d) => pure (some (t, ⟨d, c.excludedDays⟩))
  remaining c := Source.remaining c.inner

end Combined

/-- Instants in ascending order, the first of equal ones kept. -/
def sortInstants (ts : List ZonedTime) : List ZonedTime :=
  let sorted := ts.mergeSort fun a b => a.instant.nanos ≤ b.instant.nanos
  sorted.foldr (fun t acc => match acc with
    | u :: _ => if u.instant = t.instant then t :: acc.tail else t :: acc
    | [] => [t]) []

/-- The occurrences of a definition anchored at `start` in `zone`, with the
rules' walks ended at `horizon`. -/
def Definition.occurrences (d : Definition) (zone : TimeZone) (start : ZonedTime)
    (horizon : Option ZonedTime) : Combined :=
  let timeOfDay := start.wall.nanos % nanosPerDay
  let walk (r : Rule) : Walk := (Walk.start r zone start).withHorizon horizon
  let rdates := sortInstants (d.rdates.filterMap fun s => s.resolve zone timeOfDay)
  let exdates := sortInstants (d.exdates.filterMap fun s =>
    if s.isDate then none else s.resolve zone timeOfDay)
  let excludedDays := d.exdates.filterMap fun s => match s with
    | .date day => some day
    | _ => none
  ⟨Difference.ofSources (Union.ofSources (d.rrule.map walk) rdates)
      (Union.ofSources (d.exrule.map walk) exdates), excludedDays⟩

end Cadence
