import Cadence.Calendar.Date
/-!
Moments on two clocks, counted in nanoseconds from 1970-01-01T00:00:00.

A `WallTime` is read on a wall clock and names no zone; an `Instant` is read on
the UTC clock; a `ZonedTime` is an instant together with the offset that its
zone had then, so that it can be shown on that zone's wall clock. Both clocks
share the representable calendar of `Date`.
-/
namespace Cadence

/-- Nanoseconds in a second. -/
def nanosPerSecond : Int := 1000000000

/-- Seconds in a day. -/
def secondsPerDay : Int := 86400

/-- Nanoseconds in a day. -/
def nanosPerDay : Int := secondsPerDay * nanosPerSecond

/-- A count of nanoseconds that lies on a representable day. -/
def nanosInRange (n : Int) : Bool :=
  Date.minDays * nanosPerDay ≤ n && n < (Date.maxDays + 1) * nanosPerDay

/-- A date and time of day on a wall clock. -/
structure WallTime where
  nanos : Int
  deriving DecidableEq, Repr, Inhabited

/-- A moment on the UTC clock. -/
structure Instant where
  nanos : Int
  deriving DecidableEq, Repr, Inhabited

namespace WallTime

instance : LT WallTime := ⟨fun a b => a.nanos < b.nanos⟩
instance : LE WallTime := ⟨fun a b => a.nanos ≤ b.nanos⟩
instance (a b : WallTime) : Decidable (a < b) := inferInstanceAs (Decidable (a.nanos < b.nanos))
instance (a b : WallTime) : Decidable (a ≤ b) := inferInstanceAs (Decidable (a.nanos ≤ b.nanos))

/-- The time `h:m:s` of a date, with no fraction of a second. -/
def ofDate (d : Date) (h m s : Nat) : WallTime :=
  ⟨(d.toDays * secondsPerDay + h * 3600 + m * 60 + s) * nanosPerSecond⟩

/-- The date on the calendar. -/
def date (t : WallTime) : Date := Date.ofDays (t.nanos / nanosPerDay)

/-- Whole seconds since midnight. -/
def secondOfDay (t : WallTime) : Nat := ((t.nanos % nanosPerDay) / nanosPerSecond).toNat

/-- Nanoseconds past the whole second. -/
def nano (t : WallTime) : Nat := (t.nanos % nanosPerSecond).toNat

def hour (t : WallTime) : Nat := t.secondOfDay / 3600
def minute (t : WallTime) : Nat := t.secondOfDay / 60 % 60
def second (t : WallTime) : Nat := t.secondOfDay % 60

/-- Whole seconds since 1970-01-01T00:00:00, rounded down. -/
def seconds (t : WallTime) : Int := t.nanos / nanosPerSecond

/-- Lies on a representable day. -/
def inRange (t : WallTime) : Bool := nanosInRange t.nanos

/-- The wall time `s` seconds later, if it stays on a representable day. -/
def addSeconds? (t : WallTime) (s : Int) : Option WallTime :=
  let n := t.nanos + s * nanosPerSecond
  if nanosInRange n then some ⟨n⟩ else none

/-- The instant at which a clock `offset` seconds east of UTC shows this time. -/
def toInstant (t : WallTime) (offset : Int) : Instant :=
  ⟨t.nanos - offset * nanosPerSecond⟩

end WallTime

namespace Instant

instance : LT Instant := ⟨fun a b => a.nanos < b.nanos⟩
instance : LE Instant := ⟨fun a b => a.nanos ≤ b.nanos⟩
instance (a b : Instant) : Decidable (a < b) := inferInstanceAs (Decidable (a.nanos < b.nanos))
instance (a b : Instant) : Decidable (a ≤ b) := inferInstanceAs (Decidable (a.nanos ≤ b.nanos))

/-- What a clock `offset` seconds east of UTC shows at this instant. -/
def toWall (t : Instant) (offset : Int) : WallTime :=
  ⟨t.nanos + offset * nanosPerSecond⟩

/-- Whole seconds since the epoch, rounded down. -/
def seconds (t : Instant) : Int := t.nanos / nanosPerSecond

/-- Lies on a representable day. -/
def inRange (t : Instant) : Bool := nanosInRange t.nanos

/-- The last representable instant, +262142-12-31T23:59:59.999999999Z. -/
def last : Instant := ⟨(Date.maxDays + 1) * nanosPerDay - 1⟩

/-- The earlier of two instants. -/
def min (a b : Instant) : Instant := if a ≤ b then a else b

/-- The instant `n` nanoseconds later, if it stays on a representable day. -/
def addNanos? (t : Instant) (n : Int) : Option Instant :=
  if nanosInRange (t.nanos + n) then some ⟨t.nanos + n⟩ else none

@[simp] theorem toWall_toInstant (t : Instant) (offset : Int) :
    (t.toWall offset).toInstant offset = t := by
  simp [toWall, WallTime.toInstant]

end Instant

/-- An instant together with the offset, in seconds east of UTC, that its zone
had at that instant. Zoned times compare by their instants. -/
structure ZonedTime where
  instant : Instant
  offset : Int
  deriving DecidableEq, Repr, Inhabited

namespace ZonedTime

/-- The zone's wall clock at this instant. -/
def wall (z : ZonedTime) : WallTime := z.instant.toWall z.offset

end ZonedTime

end Cadence
