import Cadence.Settings.Precreate
import Cadence.Store.Format
import Cadence.Zone.Resolve
/-!
Process-wide settings: the precreate window, the storage format, the zone of
entries that name none, and the cap on queries without a limit.
-/
namespace Cadence

/-- Settings as written; `validate` says whether they can be used. -/
structure Settings where
  precreate : String
  storageFormat : StorageFormat
  defaultZone : String
  maxOccurrences : Nat
  deriving DecidableEq, Repr

namespace Settings

/-- Two years ahead, date and time in UTC, UTC, and ten thousand occurrences. -/
def default : Settings := ⟨"P2Y", .dateTime, "UTC", 10000⟩

/-- The first problem of the settings: the window, then the zone, then the cap. -/
def validate (s : Settings) : Except SettingsError Unit := do
  let _ ← Window.ofText s.precreate
  if !TimeZone.isKnown s.defaultZone then
    throw (.invalid ("Unknown timezone '" ++ s.defaultZone ++ "'"))
  if s.maxOccurrences = 0 then throw (.invalid "max_occurrences must be at least 1")

end Settings

end Cadence
