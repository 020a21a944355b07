import Cadence.Rule.Text
import Cadence.Rule.Error
import Cadence.Text.Number
/-!
Reading rules and definitions.

A rule body is `KEY=VALUE` parts divided by `;`; blank parts are skipped, keys
are read without regard to ASCII case and may not repeat, and blanks around
keys and values are ignored. The checks run in a fixed order: each part as it
comes, then `COUNT` against `UNTIL`, then the presence of `FREQ`, then the
parts that the frequency does not allow.

A definition is read line by line: property lines `NAME[;PARAM=V]:VALUE` for
`RRULE`, `EXRULE`, `RDATE` and `EXDATE`, where the first line may also be a
bare rule body. `RDATE` and `EXDATE` take `TZID` and `VALUE` parameters; a
wall-clock timestamp with a `TZID` is pinned to its UTC instant.
-/
namespace Cadence

open Cadence.Text

/-- Splits at the first `c`. -/
def splitOnce (c : Char) (s : String) : Option (String × String) :=
  let cs := s.toList
  match cs.findIdx? (· = c) with
  | some i => some (String.ofList (cs.take i), String.ofList (cs.drop (i + 1)))
  | none => none

/-- All pieces between the occurrences of `c`, empty ones included. -/
def splitAll (c : Char) (s : String) : List String :=
  (s.toList.splitOn c).map String.ofList

/-- Removes every leading and trailing double quote. -/
def stripQuotes (s : String) : String :=
  String.ofList ((s.toList.dropWhile (· = '"')).reverse.dropWhile (· = '"')).reverse

/-- Reads `MO`, `+1MO`, `1MO` or `-1FR`: a weekday code after an optional
position of one sign and one digit, which must be allowed. -/
def WeekdayNum.ofToken? (token : String) : Option WeekdayNum := do
  let cs := token.toList
  if !isAscii token || cs.length < 2 || cs.length > 4 then none
  let position := cs.take (cs.length - 2)
  let w ← Weekday.ofCode? (String.ofList (cs.drop (cs.length - 2)))
  if position.isEmpty then return ⟨w, none⟩
  let digits := position.dropWhile fun c => c = '+' ∨ c = '-'
  if digits.length ≠ 1 ∨ position.length - digits.length > 1 then none
  let p ← signedOfText? 8 (String.ofList position)
  if p ∈ allowedPositions then some ⟨w, some p⟩ else none

/-- Reads the weekdays of a `BYDAY` value, keeping the first of repeats. -/
def readByDay (value : String) : Except RuleError (List WeekdayNum) :=
  List.foldlM (fun days raw =>
    match WeekdayNum.ofToken? (asciiUpper (trim raw)) with
    | some d => pure (if d ∈ days then days else days ++ [d])
    | none => throw (.invalidValue "BYDAY" (trim raw))) [] (splitAll ',' value)

/-- Reads a set of numbers from `lo` to `hi`. -/
def readNumberSet (key value : String) (lo hi : Nat) : Except RuleError (List Nat) :=
  List.foldlM (fun acc raw =>
    match unsignedOfText? 32 (trim raw) with
    | some n => if lo ≤ n ∧ n ≤ hi then pure (insertSorted n acc)
                else throw (.invalidValue key (trim raw))
    | none => throw (.invalidValue key (trim raw))) [] (splitAll ',' value)

/-- Reads a set of month days: nonzero, from -31 to 31. -/
def readMonthDays (value : String) : Except RuleError (List Int) :=
  List.foldlM (fun acc raw =>
    match signedOfText? 32 (trim raw) with
    | some d => if d ≠ 0 ∧ -31 ≤ d ∧ d ≤ 31 then pure (insertSorted d acc)
                else throw (.invalidValue "BYMONTHDAY" (trim raw))
    | none => throw (.invalidValue "BYMONTHDAY" (trim raw))) [] (splitAll ',' value)

/-- A whole number from 1 to `2 ^ 32 - 1`. -/
def readPositive (key value : String) : Except RuleError Nat :=
  match unsignedOfText? 32 value with
  | some n => if n ≥ 1 then pure n else throw (.invalidValue key value)
  | none => throw (.invalidValue key value)

/-- A rule body read so far. -/
structure RuleDraft where
  seen : List String
  frequency : Option Frequency
  count : Option Nat
  upTo : Option Stamp
  rule : Rule

/-- Sets the part named `key`, in upper case, to the text `value`. -/
def RuleDraft.setPart (d : RuleDraft) (key value : String) : Except RuleError RuleDraft := do
  let r := d.rule
  match key with
  | "FREQ" =>
    match Frequency.ofCode? value with
    | some f => return { d with frequency := some f }
    | none => throw (.invalidValue key value)
  | "INTERVAL" => return { d with rule := { r with interval := ← readPositive key value } }
  | "COUNT" => return { d with count := some (← readPositive key value) }
  | "UNTIL" =>
    match Stamp.ofText? value with
    | some s => return { d with upTo := some s }
    | none => throw (.malformedDate "UNTIL" value)
  | "BYDAY" => return { d with rule := { r with byDay := ← readByDay value } }
  | "BYMONTH" => return { d with rule := { r with byMonth := ← readNumberSet key value 1 12 } }
  | "BYMONTHDAY" => return { d with rule := { r with byMonthDay := ← readMonthDays value } }
  | "BYHOUR" => return { d with rule := { r with byHour := ← readNumberSet key value 0 23 } }
  | "BYMINUTE" => return { d with rule := { r with byMinute := ← readNumberSet key value 0 59 } }
  | "BYSECOND" => return { d with rule := { r with bySecond := ← readNumberSet key value 0 59 } }
  | "WKST" =>
    match Weekday.ofCode? (asciiUpper value) with
    | some w => return { d with rule := { r with weekStart := w } }
    | none => throw (.invalidValue key value)
  | _ => throw (.unknownKey key)

/-- Reads one part of a rule body into the draft. -/
def RuleDraft.addPart (d : RuleDraft) (raw : String) : Except RuleError RuleDraft := do
  let part := trim raw
  if part.isEmpty then return d
  let some (k, v) := splitOnce '=' part
    | throw (.malformed ("expected KEY=VALUE, found '" ++ part ++ "'"))
  let key := asciiUpper (trim k)
  let value := trim v
  if key ∈ d.seen then throw (.malformed ("duplicate rule part " ++ key))
  { d with seen := key :: d.seen }.setPart key value

/-- Refuses parts that the frequency does not allow: a positioned weekday
outside monthly and yearly rules, and month days in weekly rules. -/
def Rule.checkFrequency (r : Rule) : Except RuleError Rule :=
  let positional := r.frequency = .monthly ∨ r.frequency = .yearly
  match (if positional then none else r.byDay.find? (·.position.isSome)) with
  | some day => throw (.invalidValue "BYDAY" day.render)
  | none =>
    if r.frequency = .weekly ∧ !r.byMonthDay.isEmpty then
      throw (.malformed "BYMONTHDAY cannot be used with FREQ=WEEKLY")
    else pure r

/-- Reads a rule body such as `FREQ=WEEKLY;BYDAY=MO,WE`. -/
def Rule.ofBody (body : String) : Except RuleError Rule := do
  let d ← (splitAll ';' body).foldlM RuleDraft.addPart ⟨[], none, none, none, Rule.every .daily⟩
  let bound ← match d.count, d.upTo with
    | some _, some _ => throw .conflictingBound
    | some n, none => pure (Bound.count n)
    | none, some s => pure (Bound.upTo s)
    | none, none => pure Bound.unbounded
  let some f := d.frequency | throw .missingFrequency
  Rule.checkFrequency { d.rule with frequency := f, bound }

/-- A property line split into its upper-case name, its parameters and its value; `none` when the
text before the first colon holds `=` and no `;`, or the name holds `=`. -/
def splitProperty (line : String) : Option (String × List String × String) := do
  let (head, value) ← splitOnce ':' line
  if head.contains '=' ∧ !head.contains ';' then none
  match splitAll ';' head with
  | first :: params =>
    let name := asciiUpper (trim first)
    if name.contains '=' then none
    else some (name, params, trim value)
  | [] => none

/-- Reads a rule body, after an optional `RRULE:` or `EXRULE:`. -/
def Rule.ofText (text : String) : Except RuleError Rule :=
  let text := trim text
  match splitProperty text with
  | some (name, params, value) =>
    if name = "RRULE" ∨ name = "EXRULE" then
      if params.isEmpty then Rule.ofBody value
      else throw (.malformed (name ++ " does not take parameters"))
    else throw (.unknownKey name)
  | none => Rule.ofBody text

/-- The zone named by the parameters of an `RDATE` or `EXDATE` line; `VALUE`
must be `DATE` or `DATE-TIME`. -/
def readDateParams (field : String) (params : List String) : Except RuleError (Option TimeZone) :=
  List.foldlM (fun zone param => do
    let some (k, v) := splitOnce '=' param
      | throw (.malformed ("malformed parameter '" ++ param ++ "' on " ++ field))
    let value := stripQuotes (trim v)
    match asciiUpper (trim k) with
    | "TZID" =>
      match TimeZone.ofName? value with
      | some z => pure (some z)
      | none => throw (.invalidValue "TZID" value)
    | "VALUE" =>
      let upper := asciiUpper value
      if upper = "DATE" ∨ upper = "DATE-TIME" then pure zone
      else throw (.invalidValue "VALUE" value)
    | _ => throw (.malformed ("unsupported parameter '" ++ param ++ "' on " ++ field)))
    none params

/-- Adds the timestamps of a date line, keeping the first of repeats. -/
def addStamps (field value : String) (zone : Option TimeZone) (acc : List Stamp) :
    Except RuleError (List Stamp) :=
  List.foldlM (fun acc raw => do
    let raw := trim raw
    if raw.isEmpty then return acc
    let some s := Stamp.ofText? raw | throw (.malformedDate field raw)
    let s ← match zone, s with
      | some z, .wall t =>
        match z.resolve t with
        | some r => pure (Stamp.ofInstant r.instant)
        | none => throw (.malformedDate field raw)
      | _, _ => pure s
    return if s ∈ acc then acc else acc ++ [s]) acc (splitAll ',' value)

/-- Reads one nonblank line of a definition into it. -/
def Definition.addLine (d : Definition) (isFirst : Bool) (line : String) :
    Except RuleError Definition :=
  match splitProperty line with
  | some (name, params, value) =>
    if (name = "RRULE" ∨ name = "EXRULE") ∧ !params.isEmpty then
      throw (.malformed (name ++ " does not take parameters"))
    else if name = "RRULE" then
      if d.rrule.isSome then throw (.malformed "more than one RRULE line")
      else do pure { d with rrule := some (← Rule.ofBody value) }
    else if name = "EXRULE" then
      if d.exrule.isSome then throw (.malformed "more than one EXRULE line")
      else do pure { d with exrule := some (← Rule.ofBody value) }
    else if name = "RDATE" then do
      let zone ← readDateParams "RDATE" params
      pure { d with rdates := ← addStamps "RDATE" value zone d.rdates }
    else if name = "EXDATE" then do
      let zone ← readDateParams "EXDATE" params
      pure { d with exdates := ← addStamps "EXDATE" value zone d.exdates }
    else throw (.unknownKey name)
  | none =>
    if isFirst then do pure { d with rrule := some (← Rule.ofBody line) }
    else throw (.malformed ("expected a property line, found '" ++ line ++ "'"))

/-- Reads a definition: a rule line, then `RDATE`, `EXRULE` and `EXDATE` lines,
in any order; blank lines are skipped. -/
def Definition.ofText (text : String) : Except RuleError Definition := do
  let lines := (splitAll '\n' text).map trim |>.filter (!·.isEmpty)
  let (d, _) ← List.foldlM
    (fun (acc : Definition × Bool) line => do pure ((← acc.1.addLine acc.2 line), false))
    ((⟨none, none, [], []⟩ : Definition), true) lines
  pure d

end Cadence
