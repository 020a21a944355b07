import Cadence.Walk.Combined
import Cadence.Rule.Parse
import Cadence.Rule.Text
import Cadence.Rule.Summary
/-!
A schedule: a definition bound to an event, its start and end, and a zone.

Each occurrence of the definition starts an event as long as the anchor event.
A query picks the occurrences whose starts lie in a window. A schedule without
an end needs a window end or a limit; a query with neither may give at most
`maxOccurrences` occurrences and fails rather than give fewer than there are.
It counts up to one past the cap in a machine word, which wraps to zero past the
largest cap the word holds.
-/
namespace Cadence

/-- Occurrences a query with neither a window end nor a limit may give. -/
def defaultMaxOccurrences : Nat := 10000

/-- The largest size a 64-bit machine word holds. -/
def sizeMax : Nat := 18446744073709551615

/-- Why a schedule could not be built or queried. -/
inductive ScheduleError where
  | invalidRule (e : RuleError)
  | unknownZone (name : String)
  | endBeforeStart
  | unbounded
  | capExceeded (cap : Nat)
  /-- An event's end stepped past the end of the calendar. -/
  | overflow
  deriving DecidableEq, Repr

/-- The text of an error. -/
def ScheduleError.message : ScheduleError → String
  | .invalidRule e => "Invalid recurrence rule: " ++ e.message
  | .unknownZone name => "Unknown timezone '" ++ name ++ "'"
  | .endBeforeStart => "Event end must not be before its start"
  | .unbounded => "Rule is infinite; a window end or a limit is required"
  | .capExceeded n => "Rule produces more than " ++ toString n ++
      " occurrences; narrow the window or pass a limit"
  | .overflow => "Calendar overflow"

/-- One event of a schedule. -/
structure Occurrence where
  start : Instant
  stop : Instant
  deriving DecidableEq, Repr

/-- A definition bound to its anchor event and zone. -/
structure Schedule where
  definition : Definition
  start : Instant
  stop : Instant
  zone : TimeZone
  maxOccurrences : Nat

namespace Schedule

/-- The schedule of `text` for an event from `start` to `stop` in the zone `zoneName`, checking
the zone, then the event, then the text. -/
def build (text : String) (start : Instant) (stop : Option Instant) (zoneName : String) :
    Except ScheduleError Schedule := do
  let some zone := TimeZone.ofName? zoneName | throw (.unknownZone zoneName)
  let stop := stop.getD start
  if stop < start then throw .endBeforeStart
  match Definition.ofText text with
  | .error e => throw (.invalidRule e)
  | .ok d => pure ⟨d, start, stop, zone, defaultMaxOccurrences⟩

/-- The same schedule with another cap on unbounded queries. -/
def withMaxOccurrences (s : Schedule) (n : Nat) : Schedule := { s with maxOccurrences := n }

/-- The length of the event, in nanoseconds. -/
def duration (s : Schedule) : Int := s.stop.nanos - s.start.nanos

/-- The including rule has neither `COUNT` nor `UNTIL`. -/
def isInfinite (s : Schedule) : Bool :=
  match s.definition.rrule with
  | some r => r.isUnbounded
  | none => false

/-- The English summary. -/
def summary (s : Schedule) : String := Vocabulary.english.describeDefinition s.definition

/-- The canonical text of the definition. -/
def text (s : Schedule) : String := s.definition.render

end Schedule

/-- The instants collected so far, newest first, then those of a source from `lo` (when
skipping) to `hi`, at most `n` of them; `fuel` bounds the values pulled. -/
def collectWindow {σ : Type} [Source σ ZonedTime] (lo hi : Option Instant) :
    Bool → Nat → Nat → List Instant → σ → Except CalendarError (List Instant)
  | _, 0, _, acc, _ => pure acc.reverse
  | _, _, 0, acc, _ => pure acc.reverse
  | skipping, fuel + 1, n + 1, acc, s =>
    match Source.next? s with
    | .error e => .error e
    | .ok none => pure acc.reverse
    | .ok (some (t, s')) =>
      if skipping && lo.any (t.instant < ·) then collectWindow lo hi true fuel (n + 1) acc s'
      else if hi.any (t.instant > ·) then pure acc.reverse
      else collectWindow lo hi false fuel n (t.instant :: acc) s'

namespace Schedule

/-- The occurrences of the definition anchored at the start, with its rules
ended at `hi`. -/
def source (s : Schedule) (hi : Option Instant) : Combined :=
  s.definition.occurrences s.zone (s.zone.zonedAt s.start) (hi.map s.zone.zonedAt)

/-- The event starting at `t`. -/
def occurrenceAt (s : Schedule) (t : Instant) : Except ScheduleError Occurrence :=
  match t.addNanos? s.duration with
  | some e => pure ⟨t, e⟩
  | none => throw .overflow

/-- How many values a query collects: as many as its limit, all of them up to a
window end, or one past the cap, counted in a machine word that wraps. -/
def collectCount (s : Schedule) (hi : Option Instant) (limit : Option Nat) : Nat :=
  match limit, hi with
  | some k, _ => k
  | none, some _ => Source.remaining (s.source hi) + 1
  | none, none => (s.maxOccurrences + 1) % (sizeMax + 1)

/-- The starts of at most `n` occurrences from `lo` to `hi`; a walk that steps
past the end of the calendar is an overflow. -/
def collected (s : Schedule) (lo hi : Option Instant) (n : Nat) :
    Except ScheduleError (List Instant) :=
  match collectWindow lo hi true (Source.remaining (s.source hi) + 1) n [] (s.source hi) with
  | .ok ts => pure ts
  | .error _ => throw .overflow

/-- The occurrences from `lo` to `hi`, ascending, at most `limit`; with neither there may be at
most `maxOccurrences`, and an unbounded schedule needs one. -/
def occurrences (s : Schedule) (lo hi : Option Instant) (limit : Option Nat) :
    Except ScheduleError (List Occurrence) := do
  if s.isInfinite && hi.isNone && limit.isNone then throw .unbounded
  let ts ← s.collected lo hi (s.collectCount hi limit)
  let found ← ts.mapM s.occurrenceAt
  if limit.isNone && hi.isNone && found.length > s.maxOccurrences then
    throw (.capExceeded s.maxOccurrences)
  pure found

end Schedule

end Cadence
