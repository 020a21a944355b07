import Cadence.Text.Blank
/-!
The precreate window: how far ahead of now recurring entries are stored, read
from an ISO 8601 duration.

Three forms are read, the first that matches winning, and whatever follows the
match is ignored:

* `P[nY][nM][nD][T[nH][nM][n[.f]S]]` with at least one part (a lone `T`
  counts), where a fraction of a second is cut to milliseconds and may be
  empty;
* `PnW`;
* `PYYYY[-]MM[-]DDTHH[:]MM[[:]SS][.f]`.

Each number of the first two forms is unsigned and below `2 ^ 32`; a longer one
does not match, so the part it starts is missing. Years and months make the
calendar part of the window, the rest its fixed length.
-/
namespace Cadence

/-- Why settings could not be used. -/
inductive SettingsError where
  | invalid (message : String)
  deriving DecidableEq, Repr

/-- The text of an error. -/
def SettingsError.message : SettingsError → String
  | .invalid m => m

/-- The largest unsigned 32-bit number. -/
def wordMax : Nat := 4294967295

/-- A precreate window: calendar months and a fixed length. -/
structure Window where
  months : Nat
  millis : Int
  deriving DecidableEq, Repr

/-- The parts of a duration as read. -/
inductive DurationParts where
  | weeks (n : Nat)
  | parts (years months days hours minutes seconds millis : Nat)
  deriving DecidableEq, Repr

namespace Duration

/-- A reader of a prefix: `none` when it does not match. -/
abbrev Reader (α : Type) := List Char → Option (α × List Char)

/-- The value of decimal digits. -/
def digitsValue (ds : List Char) : Nat :=
  ds.foldl (fun acc c => acc * 10 + (c.toNat - '0'.toNat)) 0

/-- One or more digits, as a 32-bit number. -/
def number : Reader Nat := fun cs =>
  let ds := cs.takeWhile Text.isDigit
  let n := digitsValue ds
  if ds.isEmpty || n > wordMax then none else some (n, cs.drop ds.length)

/-- A number followed by the designator `c`. -/
def part (c : Char) : Reader Nat := fun cs =>
  match number cs with
  | some (n, d :: rest) => if d = c then some (n, rest) else none
  | _ => none

/-- A fraction of a second in milliseconds: its first three digits, none
needed. -/
def fraction (cs : List Char) : Nat × List Char :=
  let ds := cs.takeWhile Text.isDigit
  (digitsValue (ds.take 3 ++ List.replicate (3 - ds.length) '0'), cs.drop ds.length)

/-- A decimal mark and the fraction after it, if there is one. -/
def decimal (cs : List Char) : Option Nat × List Char :=
  match cs with
  | c :: more => if c = '.' || c = ',' then
      let (ms, rest) := fraction more
      (some ms, rest)
    else (none, cs)
  | [] => (none, cs)

/-- Seconds with an optional fraction, then `S`. -/
def secondsPart : Reader (Nat × Nat) := fun cs =>
  match number cs with
  | none => none
  | some (n, rest) =>
    let (ms, rest) := decimal rest
    match rest with
    | 'S' :: rest => some ((n, ms.getD 0), rest)
    | _ => none

/-- A part that may be missing. -/
def optional {α : Type} (r : Reader α) (cs : List Char) : Option α × List Char :=
  match r cs with
  | some (a, rest) => (some a, rest)
  | none => (none, cs)

/-- `P[nY][nM][nD][T[nH][nM][nS]]`. -/
def designated : Reader DurationParts
  | 'P' :: cs =>
    let (y, cs) := optional (part 'Y') cs
    let (mo, cs) := optional (part 'M') cs
    let (d, cs) := optional (part 'D') cs
    let time := match cs with
      | 'T' :: cs =>
        let (h, cs) := optional (part 'H') cs
        let (mi, cs) := optional (part 'M') cs
        let (s, _) := optional secondsPart cs
        some (h.getD 0, mi.getD 0, s.getD (0, 0))
      | _ => none
    if y.isNone && mo.isNone && d.isNone && time.isNone then none
    else
      let (h, mi, s, ms) := time.getD (0, 0, 0, 0)
      some (.parts (y.getD 0) (mo.getD 0) (d.getD 0) h mi s ms, [])
  | _ => none

/-- `PnW`. -/
def weeks : Reader DurationParts
  | 'P' :: cs => (part 'W' cs).map fun (n, rest) => (.weeks n, rest)
  | _ => none

/-- Exactly `n` digits with a value from `lo` to `hi`. -/
def fixedDigits (n lo hi : Nat) (cs : List Char) : Option (Nat × List Char) :=
  let ds := cs.take n
  if ds.length = n && ds.all Text.isDigit then
    let v := digitsValue ds
    if lo ≤ v && v ≤ hi then some (v, cs.drop n) else none
  else none

/-- The character `c`. -/
def literal (c : Char) : List Char → Option (List Char)
  | d :: rest => if d = c then some rest else none
  | [] => none

/-- The character `c` if it comes next. -/
def skip (c : Char) : List Char → List Char
  | d :: rest => if d = c then rest else d :: rest
  | [] => []

/-- Seconds, after an optional colon. -/
def clockSeconds (cs : List Char) : Option Nat × List Char :=
  match fixedDigits 2 0 60 (skip ':' cs) with
  | some (s, rest) => (some s, rest)
  | none => (none, cs)

/-- `PYYYY[-]MM[-]DDTHH[:]MM[[:]SS][.f]`. -/
def calendarForm (cs : List Char) : Option DurationParts := do
  let cs ← literal 'P' cs
  let (y, cs) ← fixedDigits 4 0 9999 cs
  let (mo, cs) ← fixedDigits 2 1 12 (skip '-' cs)
  let (d, cs) ← fixedDigits 2 1 31 (skip '-' cs)
  let cs ← literal 'T' cs
  let (h, cs) ← fixedDigits 2 0 24 cs
  let (mi, cs) ← fixedDigits 2 0 59 (skip ':' cs)
  let (s, cs) := clockSeconds cs
  let (ms, _) := decimal cs
  pure (.parts y mo d h mi (s.getD 0) (ms.getD 0))

/-- The parts of a duration, from the first form that matches. -/
def read (s : String) : Option DurationParts :=
  let cs := s.toList
  match designated cs with
  | some (p, _) => some p
  | none =>
    match weeks cs with
    | some (p, _) => some p
    | none => calendarForm cs

end Duration

namespace Window

/-- The window of a duration, as written in settings. -/
def ofText (value : String) : Except SettingsError Window := do
  let trimmed := Text.trim value
  let some parts := Duration.read trimmed
    | throw (.invalid ("Invalid precreate duration '" ++ value ++
        "': Failed to parse duration: " ++ trimmed))
  let w ← match parts with
    | .weeks n => pure ⟨0, (n : Int) * 604800000⟩
    | .parts y mo d h mi s ms =>
      let months := y * 12 + mo
      if y * 12 > wordMax || months > wordMax then
        throw (.invalid ("Precreate duration '" ++ value ++ "' is too large"))
      else pure ⟨months, (d * 86400000 + h * 3600000 + mi * 60000 + s * 1000 + ms : Nat)⟩
  if w.months = 0 && w.millis ≤ 0 then throw (.invalid "Precreate duration must be longer than zero")
  pure w

end Window

end Cadence
