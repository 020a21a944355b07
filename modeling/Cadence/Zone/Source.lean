import Cadence.Calendar.Date
import Cadence.Zone.Database
/-!
The records of the time zone database as values: rules, the periods of each
zone, and the other names of zones, read from `databaseText`.
-/
namespace Cadence.Zone

/-- The clock on which a time of day of the database is read. -/
inductive Clock where
  | wall | standard | universal
  deriving DecidableEq, Repr, Inhabited

/-- A day of a month, fixed or found by its weekday. -/
inductive DaySpec where
  /-- The day of the month with this number. -/
  | on (day : Nat)
  /-- The last day of the month that falls on this weekday. -/
  | last (w : Weekday)
  /-- The first day falling on the weekday on or after the given day. -/
  | onOrAfter (w : Weekday) (day : Nat)
  /-- The last day falling on the weekday on or before the given day. -/
  | onOrBefore (w : Weekday) (day : Nat)
  deriving DecidableEq, Repr, Inhabited

/-- A rule of a rule set: from `fromYear` to `toYear` (no last year when it is
`none`) the saving becomes `save` at `time` on the given day. -/
structure Rule where
  fromYear : Int
  toYear : Option Int
  month : Nat
  day : DaySpec
  time : Int
  clock : Clock
  save : Int
  letters : String
  deriving Repr, Inhabited

/-- The saving of a period: none, a fixed amount, or the rules of a set. -/
inductive Saving where
  | none
  | fixed (amount : Int)
  | rules (name : String)
  deriving DecidableEq, Repr, Inhabited

/-- The end of a period: a year, month, day and time of day. -/
structure Until where
  year : Int
  month : Nat
  day : DaySpec
  time : Int
  clock : Clock
  deriving Repr, Inhabited

/-- A period of a zone: its standard offset, saving and abbreviation format,
until an optional end. -/
structure Period where
  offset : Int
  saving : Saving
  format : String
  ending : Option Until
  deriving Repr, Inhabited

/-- The whole database. -/
structure Database where
  /-- Rule sets by name, each rule in the order written. -/
  ruleSets : List (String × Array Rule)
  /-- Zones by name, each with its periods in order. -/
  zones : List (String × Array Period)
  /-- Other names of zones: the name, then the zone it stands for. -/
  aliases : List (String × String)
  deriving Inhabited

/-- Reads a weekday by its three-letter name. -/
def weekdayOfName? : String → Option Weekday
  | "Mon" => some .mon
  | "Tue" => some .tue
  | "Wed" => some .wed
  | "Thu" => some .thu
  | "Fri" => some .fri
  | "Sat" => some .sat
  | "Sun" => some .sun
  | _ => none

/-- Reads `N`, `lastSun`, `Sun>=8` or `Sat<=30`. -/
def DaySpec.ofText? (s : String) : Option DaySpec :=
  match s.splitOn ">=" with
  | [w, d] => do pure (.onOrAfter (← weekdayOfName? w) (← d.toNat?))
  | _ =>
    match s.splitOn "<=" with
    | [w, d] => do pure (.onOrBefore (← weekdayOfName? w) (← d.toNat?))
    | _ =>
      match s.splitOn "last" with
      | ["", w] => (weekdayOfName? w).map .last
      | _ => s.toNat?.map .on

/-- Reads a time of day in seconds followed by its clock letter. -/
def timeOfText? (s : String) : Option (Int × Clock) :=
  match s.toList.reverse with
  | c :: rest =>
    let clock? : Option Clock :=
      if c = 'w' then some .wall else if c = 's' then some .standard
      else if c = 'u' then some .universal else none
    do pure ((← (String.ofList rest.reverse).toInt?), (← clock?))
  | [] => none

/-- Reads the fields of a rule line after its name. -/
def Rule.ofFields? : List String → Option Rule
  | [fromYear, toYear, month, day, atText, save, letters] => do
    let fromYear ← fromYear.toInt?
    let toYear ← if toYear = "max" then pure none else some <$> toYear.toInt?
    let (time, clock) ← timeOfText? atText
    pure {
      fromYear, toYear
      month := ← month.toNat?
      day := ← DaySpec.ofText? day
      time, clock
      save := ← save.toInt?
      letters := if letters = "-" then "" else letters }
  | _ => none

/-- Reads the optional end of a period. -/
def Until.ofFields? : List String → Option (Option Until)
  | [] => some none
  | [y] => do pure (some ⟨← y.toInt?, 1, .on 1, 0, .wall⟩)
  | [y, m] => do pure (some ⟨← y.toInt?, ← m.toNat?, .on 1, 0, .wall⟩)
  | [y, m, d] => do pure (some ⟨← y.toInt?, ← m.toNat?, ← DaySpec.ofText? d, 0, .wall⟩)
  | [y, m, d, t] => do
    let (time, clock) ← timeOfText? t
    pure (some ⟨← y.toInt?, ← m.toNat?, ← DaySpec.ofText? d, time, clock⟩)
  | _ => none

/-- Reads the fields of a period line. -/
def Period.ofFields? : List String → Option Period
  | offset :: rules :: format :: ending => do
    let saving : Saving ←
      if rules = "-" then pure .none
      else match rules.toList with
        | ':' :: amount => Saving.fixed <$> (String.ofList amount).toInt?
        | _ => pure (.rules rules)
    pure ⟨← offset.toInt?, saving, format, ← Until.ofFields? ending⟩
  | _ => none

/-- Adds a rule to the set of its name; sets keep the order of first mention. -/
def addRule (sets : List (String × Array Rule)) (name : String) (r : Rule) :
    List (String × Array Rule) :=
  match sets with
  | [] => [(name, #[r])]
  | (n, rs) :: rest => if n = name then (n, rs.push r) :: rest else (n, rs) :: addRule rest name r

/-- Adds one line to a database read so far, in reverse order of zones. Lines
that are not records are skipped. -/
def readLine (db : Database) (line : String) : Database :=
  match line.splitOn " " with
  | "R" :: name :: fields =>
    match Rule.ofFields? fields with
    | some r => { db with ruleSets := addRule db.ruleSets name r }
    | none => db
  | ["Z", name] => { db with zones := (name, #[]) :: db.zones }
  | "P" :: fields =>
    match Period.ofFields? fields, db.zones with
    | some p, (name, ps) :: rest => { db with zones := (name, ps.push p) :: rest }
    | _, _ => db
  | ["L", zone, name] => { db with aliases := (name, zone) :: db.aliases }
  | _ => db

/-- Reads a database from its text. -/
def Database.ofText (text : String) : Database :=
  (text.splitOn "\n").foldl readLine ⟨[], [], []⟩

/-- The time zone database. -/
def database : Database := Database.ofText databaseText

/-- The periods of a zone, by its name or another name of it. -/
def Database.periods? (db : Database) (name : String) : Option (Array Period) :=
  match List.lookup name db.zones with
  | some ps => some ps
  | none => (List.lookup name db.aliases).bind fun z => List.lookup z db.zones

/-- The rules of a rule set; an unknown set has none. -/
def Database.rules (db : Database) (name : String) : Array Rule :=
  (List.lookup name db.ruleSets).getD #[]

end Cadence.Zone
