import Cadence.Schedule.Basic
import Cadence.Store.Format
/-!
The records written to storage for an entry: one per occurrence from the
anchor up to a horizon, rendered in a storage format. Records that become equal
once rendered, such as two starts on one day stored as dates, are kept once
when they are next to each other.
-/
namespace Cadence

/-- A stored occurrence, already rendered. -/
structure Record where
  start : String
  stop : String
  deriving DecidableEq, Repr

/-- The kept elements, newest first, followed by those of a list that differ
from the element before them, `last` being the one kept last. -/
def dedupOnto {α : Type} [DecidableEq α] (acc : List α) (last : α) : List α → List α
  | [] => (last :: acc).reverse
  | b :: rest => if b = last then dedupOnto acc last rest else dedupOnto (last :: acc) b rest

/-- Drops each element equal to the one before it. -/
def dedupAdjacent {α : Type} [DecidableEq α] : List α → List α
  | [] => []
  | a :: rest => dedupOnto [] a rest

/-- An instant of a zone written in a storage format. -/
def StorageFormat.renderIn (f : StorageFormat) (zone : TimeZone) (t : Instant) : String :=
  f.render t (zone.offsetAt t)

/-- The records of every occurrence of a schedule from its start up to
`horizon`. -/
def Schedule.materialize (s : Schedule) (horizon : Instant) (f : StorageFormat) :
    Except ScheduleError (List Record) := do
  let found ← s.occurrences (some s.start) (some horizon) none
  pure (dedupAdjacent (found.map fun o => ⟨f.renderIn s.zone o.start, f.renderIn s.zone o.stop⟩))

/-- The record of an entry that does not recur; without an end it ends when it
starts. -/
def materializeSingle (start : Instant) (stop : Option Instant) (zone : TimeZone)
    (f : StorageFormat) : Record :=
  ⟨f.renderIn zone start, f.renderIn zone (stop.getD start)⟩

end Cadence
