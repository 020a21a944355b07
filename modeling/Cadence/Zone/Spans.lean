import Cadence.Zone.Source
import Cadence.Calendar.Moment
/-!
From the periods of a zone to its spans of fixed offset.

Each period contributes the spans its saving gives it. A rule set is followed
year by year from 1800 to 2099: within a year the rules in force fire in the
order of their times, each time read on its own clock with the saving in force
just before. Later years keep the last saving. A period ends at its `until`,
read on the wall clock of that period whatever clock letter it carries. When a
period begins, the span in force is the one its rules left before the start,
or, if none fired before, one with no saving once a rule with no saving is
seen.

The spans are then sorted by their start, stably, and tidied: a change that
takes effect on the wall clock no later than the change before it replaces that
change's span, and a span equal to the one before it is dropped.
-/
namespace Cadence.Zone

/-- A stretch of time with one fixed offset: the standard offset, the saving
on top of it, and the abbreviation, all in seconds east of UTC. -/
structure Span where
  utcOffset : Int
  dstOffset : Int
  name : String
  deriving DecidableEq, Repr, Inhabited

/-- The whole offset from UTC. -/
def Span.total (s : Span) : Int := s.utcOffset + s.dstOffset

/-- The spans of a zone: the first, then each later span with the UTC second at
which it begins. -/
structure SpanSet where
  first : Span
  rest : Array (Int × Span)
  deriving Repr, Inhabited

/-- The first year that rules are followed in. -/
def firstRuleYear : Int := 1800

/-- The number of years that rules are followed in, up to 2099. -/
def ruleYears : Nat := 300

/-- The day count of a day of a month. -/
def DaySpec.toDays (spec : DaySpec) (y : Int) (m : Nat) : Int :=
  match spec with
  | .on d => Date.toDays ⟨y, m, d⟩
  | .last w =>
    let end_ := Date.toDays ⟨y, m, monthLength y m⟩
    end_ - (Weekday.daysFrom (Date.weekdayOfDays end_) w : Int)
  | .onOrAfter w d =>
    let base := Date.toDays ⟨y, m, d⟩
    base + (Weekday.daysFrom w (Date.weekdayOfDays base) : Int)
  | .onOrBefore w d =>
    let base := Date.toDays ⟨y, m, d⟩
    base - (Weekday.daysFrom (Date.weekdayOfDays base) w : Int)

/-- Seconds since the epoch, on the clock the day and time are read on. -/
def clockSeconds (y : Int) (m : Nat) (day : DaySpec) (time : Int) : Int :=
  day.toDays y m * secondsPerDay + time

/-- The UTC second at which a rule fires in year `y`, given the standard
offset and the saving in force. -/
def Rule.firesAt (r : Rule) (y : Int) (offset dst : Int) : Int :=
  let shift := match r.clock with
    | .universal => 0
    | .standard => offset
    | .wall => offset + dst
  clockSeconds y r.month r.day r.time - shift

/-- A rule is in force in year `y`. -/
def Rule.appliesTo (r : Rule) (y : Int) : Bool :=
  r.fromYear ≤ y && match r.toYear with
    | some t => y ≤ t
    | none => true

/-- The end of a period as seconds on its wall clock. -/
def Until.wallSeconds (u : Until) : Int :=
  clockSeconds u.year u.month u.day u.time

/-- The abbreviation from a format: `A/B` picks `A` without saving and `B`
with it; `%s` takes the letters of the rule. -/
def formatName (format : String) (dst : Int) (letters : String) : String :=
  match format.splitOn "/" with
  | [standard, daylight] => if dst = 0 then standard else daylight
  | _ => String.intercalate letters (format.splitOn "%s")

/-- The first rule of the least firing time, and the others in their order. -/
def pickEarliest (times : List (Int × Rule)) : Option ((Int × Rule) × List (Int × Rule)) :=
  match times with
  | [] => none
  | t :: rest =>
    match pickEarliest rest with
    | none => some (t, [])
    | some (u, others) => if u.1 < t.1 then some (u, t :: others) else some (t, rest)

/-- What following the rules of a period carries from one firing to the next. -/
structure Walk where
  /-- The saving in force. -/
  dst : Int
  /-- A span must still be placed at the start of the period. -/
  pending : Bool
  /-- The abbreviation of the span to place at the start, once known. -/
  startName : Option String
  /-- The saving of the span to place at the start. -/
  startDst : Int
  /-- The spans found so far. -/
  rest : Array (Int × Span)

/-- The context of a period whose rules are followed. -/
structure PeriodFrame where
  offset : Int
  format : String
  /-- The end of the period on its wall clock, unless it is the last period. -/
  ending : Option Until
  /-- The start of the period, unless it is the first. -/
  start : Int

/-- Fires the rules of one year, earliest first; `fuel` bounds the firings by
the number of rules. -/
def fireYear (frame : PeriodFrame) (y : Int) : Nat → List Rule → Walk → Walk
  | 0, _, w => w
  | fuel + 1, rules, w =>
    let times := rules.map fun r => (r.firesAt y frame.offset w.dst, r)
    match pickEarliest times with
    | none => w
    | some ((time, r), others) =>
      let others := others.map Prod.snd
      let stop := match frame.ending with
        | some u => decide (time ≥ u.wallSeconds - frame.offset - w.dst)
        | none => false
      if stop then w
      else
        let dst := r.save
        let name := formatName frame.format dst r.letters
        let pending := w.pending && time != frame.start
        if pending && time < frame.start then
          fireYear frame y fuel others
            { w with dst, pending, startName := some name, startDst := dst }
        else
          let startName :=
            if pending && w.startName.isNone && w.startDst = dst then some name else w.startName
          fireYear frame y fuel others
            { w with dst, pending, startName,
                     rest := w.rest.push (time, ⟨frame.offset, dst, name⟩) }

/-- Follows the rules of a period through the years. -/
def walkYears (frame : PeriodFrame) (rules : Array Rule) : Nat → Int → Walk → Walk
  | 0, _, w => w
  | n + 1, y, w =>
    let past := match frame.ending with
      | some u => decide (y > u.year)
      | none => false
    if past then w
    else
      let active := rules.toList.filter (·.appliesTo y)
      walkYears frame rules n (y + 1) (fireYear frame y active.length active w)

/-- What building the spans carries from one period to the next. -/
structure Builder where
  first : Option Span
  rest : Array (Int × Span)
  /-- The start of the next period. -/
  start : Int
  deriving Inhabited

/-- Adds the spans of one period. -/
def Builder.addPeriod (db : Database) (b : Builder) (isFirst : Bool) (p : Period) : Builder :=
  let nextStart (dst : Int) : Int := match p.ending with
    | some u => u.wallSeconds - p.offset - dst
    | none => b.start
  let fixed (dst : Int) : Builder :=
    let span : Span := ⟨p.offset, dst, formatName p.format dst ""⟩
    if isFirst then { b with first := some span, start := nextStart dst }
    else { b with rest := b.rest.push (b.start, span), start := nextStart dst }
  match p.saving with
  | .none => fixed 0
  | .fixed amount => fixed amount
  | .rules name =>
    let frame : PeriodFrame := ⟨p.offset, p.format, p.ending, b.start⟩
    let w := walkYears frame (db.rules name) ruleYears firstRuleYear
      ⟨0, !isFirst, none, 0, b.rest⟩
    let rest := match w.pending, w.startName with
      | true, some name => w.rest.push (b.start, ⟨p.offset, w.startDst, name⟩)
      | _, _ => w.rest
    { b with rest, start := nextStart w.dst }

/-- Tidies sorted spans: a change effective no later on the wall clock than the one before
replaces its span, and a repeated span is dropped. -/
def tidy (out : Array (Int × Span)) (t : Int × Span) : Array (Int × Span) :=
  if h : 1 < out.size then
    let last := out[out.size - 1]
    let before := out[out.size - 2]
    if t.1 + last.2.total ≤ last.1 + before.2.total then
      out.set (out.size - 1) (last.1, t.2)
    else if last.2 = t.2 then out else out.push t
  else
    match out.back? with
    | some last => if last.2 = t.2 then out else out.push t
    | none => out.push t

/-- The spans of a zone from its periods. -/
def SpanSet.ofPeriods (db : Database) (periods : Array Period) : SpanSet :=
  let (b, _) := periods.foldl
    (fun (acc : Builder × Bool) p => (acc.1.addPeriod db acc.2 p, false))
    ((default : Builder), true)
  let sorted := b.rest.toList.mergeSort fun x y => x.1 ≤ y.1
  let first := b.first.getD ((sorted.find? (·.2.dstOffset = 0)).map Prod.snd |>.getD default)
  let tidied := sorted.foldl tidy #[]
  let rest := match tidied[0]? with
    | some t => if t.2 = first then tidied.extract 1 tidied.size else tidied
    | none => tidied
  ⟨first, rest⟩

end Cadence.Zone
