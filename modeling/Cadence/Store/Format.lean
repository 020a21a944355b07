import Cadence.Calendar.Text
import Cadence.Text.Blank
/-!
The precision with which occurrences are stored: a date on the wall clock of
the entry's zone, or a date and time of day in UTC.
-/
namespace Cadence

/-- How an occurrence is written to storage. -/
inductive StorageFormat where
  /-- `YYYY-MM-DD`, the date on the entry's wall clock. -/
  | date
  /-- `YYYY-MM-DDTHH:MM:SS`, in UTC. -/
  | dateTime
  deriving DecidableEq, Repr, Inhabited

namespace StorageFormat

/-- The name of a format. -/
def name : StorageFormat → String
  | .date => "date"
  | .dateTime => "datetime"

/-- The format named by `s`, read without surrounding blanks and ignoring the
case of ASCII letters. -/
def ofText (s : String) : Except String StorageFormat :=
  match Text.asciiLower (Text.trim s) with
  | "date" => pure .date
  | "datetime" => pure .dateTime
  | other => throw ("Unknown storage format '" ++ other ++ "', expected 'date' or 'datetime'")

/-- An instant written in the format, with `offset` the zone's offset then. -/
def render (f : StorageFormat) (t : Instant) (offset : Int) : String :=
  match f with
  | .date => (t.toWall offset).date.render
  | .dateTime => (t.toWall 0).renderSeconds

end StorageFormat

end Cadence
