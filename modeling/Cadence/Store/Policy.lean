import Cadence.Settings.Basic
import Cadence.Store.Materialize
import Cadence.Store.Item
/-!
A materialization policy: settings checked once and applied to many entries.

The horizon is now moved by the window's months (the day kept, or the last day
of a shorter month) and then by its fixed length; past the end of the calendar
it is the last instant of the calendar.
-/
namespace Cadence

/-- The same time of day `k` months later, when the calendar holds it. -/
def Instant.addMonths? (t : Instant) (k : Nat) : Option Instant := do
  let wall := t.toWall 0
  let d ← wall.date.addMonths? k
  pure ⟨d.toDays * nanosPerDay + wall.nanos % nanosPerDay⟩

/-- Settings ready for use. -/
structure Policy where
  window : Window
  format : StorageFormat
  defaultZone : TimeZone
  maxOccurrences : Nat

namespace Policy

/-- The policy of valid settings. -/
def ofSettings (s : Settings) : Except SettingsError Policy := do
  s.validate
  let some zone := TimeZone.ofName? s.defaultZone
    | throw (.invalid ("Unknown timezone '" ++ s.defaultZone ++ "'"))
  let w ← Window.ofText s.precreate
  pure ⟨w, s.storageFormat, zone, s.maxOccurrences⟩

/-- The same policy with another storage format. -/
def withFormat (p : Policy) (f : StorageFormat) : Policy := { p with format := f }

/-- How far ahead of `now` entries are stored. -/
def horizon (p : Policy) (now : Instant) : Instant :=
  match now.addMonths? p.window.months with
  | some t => (t.addNanos? (p.window.millis * 1000000)).getD Instant.last
  | none => Instant.last

/-- The records of an entry: its occurrences up to the horizon when it recurs, and one record
otherwise; a blank zone is the default zone. -/
def materializeItem (p : Policy) (i : Item) (now : Instant) : Except ScheduleError (List Record) :=
  let i := if (Text.trim i.zone).isEmpty then { i with zone := p.defaultZone.name } else i
  match i.recurrence with
  | some s => (s.withMaxOccurrences p.maxOccurrences).materialize (p.horizon now) p.format
  | none => pure [materializeSingle i.start i.stop ((TimeZone.ofName? i.zone).getD p.defaultZone) p.format]

end Policy

end Cadence
