import Std.Time.Format
import Cadence.Store.Policy
import Cadence.Settings.Toml
/-!
The command line: `describe`, `occurrences` and `materialize` for a rule given
by `--rule`, `--start`, `--end` and `--tz`, with settings read from the TOML
file named by `--settings` (the defaults when there is none).

Instants are RFC 3339 text or compact timestamps, a floating one read in the
rule's zone at its midnight when it is only a date. Lists are printed as
JSON; failures go to standard error with exit code 1.
-/
namespace Cadence.Cli

/-- Splits arguments into positional words and `--name value` options. -/
def parseArgs : List String → Except String (List String × List (String × String))
  | [] => pure ([], [])
  | a :: rest =>
    if a.startsWith "--" then
      let body := String.ofList (a.toList.drop 2)
      match splitOnce '=' body with
      | some (k, v) => do
        let (ps, os) ← parseArgs rest
        pure (ps, (k, v) :: os)
      | none =>
        match rest with
        | v :: more => do
          let (ps, os) ← parseArgs more
          pure (ps, (body, v) :: os)
        | [] => throw ("a value is required for '--" ++ body ++ "'")
    else do
      let (ps, os) ← parseArgs rest
      pure (a :: ps, os)

/-- An instant: RFC 3339 text, or a compact timestamp read in `zone`. -/
def readInstant (zone : TimeZone) (value : String) : Except String Instant :=
  match Instant.ofRfc3339? value with
  | some t => pure t
  | none =>
    match (Stamp.ofText? value).bind fun s => s.resolve zone 0 with
    | some z => pure z.instant
    | none => throw ("Could not parse '" ++ value ++ "' as a date")

/-- Pretty JSON for a list of records with the given keys. -/
def renderPairs (keys : String × String) (pairs : List (String × String)) : String :=
  match pairs with
  | [] => "[]"
  | _ =>
    let item (p : String × String) : String :=
      "  \x7b\n    \"" ++ keys.1 ++ "\": \"" ++ p.1 ++ "\",\n    \"" ++ keys.2 ++ "\": \"" ++ p.2 ++
        "\"\n  \x7d"
    "[\n" ++ ",\n".intercalate (pairs.map item) ++ "\n]"

/-- What a command prints, or why it fails. -/
def command (settings : Settings) (now : Instant) (name : String) (opts : List (String × String)) :
    Except String String := do
  let get (k : String) : Option String := List.lookup k opts
  let some rule := get "rule" | throw "the argument '--rule <RULE>' is required"
  let some start := get "start" | throw "the argument '--start <START>' is required"
  let tz := (get "tz").getD settings.defaultZone
  let some zone := TimeZone.ofName? tz | throw ("Unknown timezone '" ++ tz ++ "'")
  let text := "\n".intercalate (rule.splitOn "\\n")
  let startAt ← readInstant zone start
  let stopAt ← match get "end" with
    | some e => some <$> readInstant zone e
    | none => pure none
  let build : Except String Schedule :=
    match Schedule.build text startAt stopAt tz with
    | .ok s => pure s
    | .error e => throw ("Could not build recurrence from '" ++ rule ++ "': " ++ e.message)
  match name with
  | "describe" =>
    let s ← build
    pure (s.summary ++ "\n" ++ s.text ++ "\ninfinite: " ++ toString s.isInfinite)
  | "occurrences" =>
    let s := (← build).withMaxOccurrences settings.maxOccurrences
    let lo ← match get "from" with
      | some v => some <$> readInstant zone v
      | none => pure none
    let hi ← match get "to" with
      | some v => some <$> readInstant zone v
      | none => pure none
    let limit ← match get "limit" with
      | some v => match v.toNat? with
        | some n => pure (some n)
        | none => throw ("invalid value '" ++ v ++ "' for '--limit <LIMIT>'")
      | none => pure none
    match s.occurrences lo hi limit with
    | .ok found => pure (renderPairs ("start", "end") (found.map fun o => (o.start.render, o.stop.render)))
    | .error e => throw e.message
  | "materialize" =>
    let policy ← match Policy.ofSettings settings with
      | .ok p => pure p
      | .error e => throw e.message
    let policy ← match get "format" with
      | some f => policy.withFormat <$> StorageFormat.ofText f
      | none => pure policy
    let nowAt ← match get "now" with
      | some v => readInstant zone v
      | none => pure now
    let item : Item := ⟨startAt, stopAt, some text, tz⟩
    match policy.materializeItem item nowAt with
    | .ok records => pure (renderPairs ("start", "end") (records.map fun r => (r.start, r.stop)))
    | .error e => throw e.message
  | other => throw ("unrecognized subcommand '" ++ other ++ "'")

/-- The settings of a file, the defaults when it cannot be read. -/
def loadSettings (path : Option String) : IO (Except String Settings) := do
  let some p := path | return .ok Settings.default
  let text ← try IO.FS.readFile p catch _ => return .ok Settings.default
  match Settings.ofToml text with
  | none => return .error ("Failed to parse settings in " ++ p)
  | some s =>
    match s.validate with
    | .ok _ => return .ok s
    | .error e => return .error ("Invalid settings in " ++ p ++ ": " ++ e.message)

end Cadence.Cli

open Cadence Cadence.Cli in
/-- Runs one command and prints its result. -/
def main (args : List String) : IO UInt32 := do
  match parseArgs args with
  | .error m =>
    IO.eprintln ("error: " ++ m)
    return 2
  | .ok (positional, opts) =>
    let some name := positional.head? | do
      IO.eprintln "error: a subcommand is required: describe, occurrences or materialize"
      return 2
    match ← loadSettings (List.lookup "settings" opts) with
    | .error m =>
      IO.eprintln ("Error: " ++ m)
      return 1
    | .ok settings =>
      let clock ← Std.Time.Timestamp.now
      let now : Instant := ⟨clock.toNanosecondsSinceUnixEpoch.val⟩
      match command settings now name opts with
      | .ok out =>
        IO.println out
        return 0
      | .error m =>
        IO.eprintln ("Error: " ++ m)
        return 1
