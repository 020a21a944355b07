import Cadence.Schedule.Basic
/-!
A stored entry: a start, an optional end, an optional rule and the name of a
zone. An entry recurs when its rule holds more than blanks; a rule that cannot
be built leaves the entry a single event.
-/
namespace Cadence

/-- A stored entry. -/
structure Item where
  start : Instant
  stop : Option Instant
  rule : Option String
  zone : String

namespace Item

/-- The rule holds more than blanks. -/
def isRecurring (i : Item) : Bool :=
  match i.rule with
  | some r => !(Text.trim r).isEmpty
  | none => false

/-- The schedule of a recurring entry, when it can be built. -/
def recurrence (i : Item) : Option Schedule :=
  match i.rule with
  | some r => if i.isRecurring then (Schedule.build r i.start i.stop i.zone).toOption else none
  | none => none

/-- The end of the first event; without an end it ends when it starts. -/
def effectiveEnd (i : Item) : Instant := i.stop.getD i.start

end Item

end Cadence
