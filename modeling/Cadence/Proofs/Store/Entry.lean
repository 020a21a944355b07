import Cadence.Proofs.Store.Distinct
import Cadence.Proofs.Schedule.Cap
import Cadence.Store.Policy

/-!
# Storing an entry

A policy stores an entry as the records of its schedule up to the horizon when the entry recurs,
and as one record otherwise (`Policy.materializeItem_outcome`). An entry recurs when it has a rule
that is not blank and that builds into a schedule: a rule in an unknown zone, one whose event ends
before it starts and one whose text does not read all leave the entry a single record.

Storing a recurring entry fails only on an overflow of the calendar, since a query with a window
end is never unbounded and never passes its cap. It does fail: the horizon of a window that
reaches past the calendar is the last instant of the calendar, which has no time on the wall
clock of a zone east of UTC, and a walk that compares a period with it fails
(`Policy.materialize_past_wall_calendar`).
-/
namespace Cadence

namespace Schedule

variable {s : Schedule}

theorem occurrences_window (lo : Option Instant) (b : Instant) :
    s.occurrences lo (some b) none = (do
      let ts ← s.collected lo (some b) (Source.remaining (s.source (some b)) + 1)
      ts.mapM s.occurrenceAt) := by
  simp [occurrences, collectCount, Except.bind_ok_right]

theorem occurrences_window_eq_error {lo : Option Instant} {b : Instant} {e : ScheduleError}
    (h : s.occurrences lo (some b) none = .error e) : e = .overflow := by
  rw [occurrences_window] at h
  rcases Except.bind_eq_error.1 h with hts | ⟨ts, -, hfound⟩
  · exact collected_eq_error hts
  · obtain ⟨t, -, ht⟩ := mapM_eq_error hfound
    exact occurrenceAt_eq_error ht

theorem materialize_eq_error {b : Instant} {f : StorageFormat} {e : ScheduleError}
    (h : s.materialize b f = .error e) : e = .overflow := by
  unfold materialize at h
  rcases Except.bind_eq_error.1 h with hos | ⟨os, -, h⟩
  · exact occurrences_window_eq_error hos
  · cases h

theorem materialize_eq_ok_iff {b : Instant} {zs : List ZonedTime} (hrun : s.RunsTo (some b) zs)
    (f : StorageFormat) (rs : List Record) :
    s.materialize b f = .ok rs ↔ ∃ os,
      (windowStarts zs (some s.start) (some b)).mapM s.occurrenceAt = .ok os ∧
      rs = dedupAdjacent (os.map fun o => ⟨f.renderIn s.zone o.start, f.renderIn s.zone o.stop⟩) := by
  constructor
  · intro hm
    obtain ⟨os, hos, rfl⟩ := materialize_eq_ok hm
    exact ⟨os, ((occurrences_eq_ok_iff hrun _ fun h => nomatch h).1 hos).1, rfl⟩
  · rintro ⟨os, hos, rfl⟩
    have hq : s.occurrences (some s.start) (some b) none = .ok os :=
      (occurrences_eq_ok_iff hrun _ fun h => nomatch h).2 ⟨hos, fun h => nomatch h⟩
    simp [materialize, hq, bind, Except.bind, pure, Except.pure]

end Schedule

namespace Item

theorem recurrence_eq_none_iff (i : Item) :
    i.recurrence = none ↔ ∀ r, i.rule = some r →
      (Text.trim r).isEmpty ∨ ∃ e, Schedule.build r i.start i.stop i.zone = .error e := by
  unfold recurrence isRecurring
  cases i.rule with
  | none => simp
  | some r =>
    cases hb : Schedule.build r i.start i.stop i.zone with
    | error e => simp [Except.toOption, hb]
    | ok s => simp [Except.toOption, hb]

end Item

namespace Policy

variable (p : Policy)

/-- The entry as a policy reads it: a blank zone is the default zone's. -/
def zoned (i : Item) : Item :=
  if (Text.trim i.zone).isEmpty then { i with zone := p.defaultZone.name } else i

@[simp] theorem zoned_start (i : Item) : (p.zoned i).start = i.start := by
  unfold zoned
  split <;> rfl

@[simp] theorem zoned_stop (i : Item) : (p.zoned i).stop = i.stop := by
  unfold zoned
  split <;> rfl

@[simp] theorem zoned_rule (i : Item) : (p.zoned i).rule = i.rule := by
  unfold zoned
  split <;> rfl

theorem materializeItem_eq (i : Item) (now : Instant) :
    p.materializeItem i now = match (p.zoned i).recurrence with
      | some s => (s.withMaxOccurrences p.maxOccurrences).materialize (p.horizon now) p.format
      | none => .ok [materializeSingle i.start i.stop
          ((TimeZone.ofName? (p.zoned i).zone).getD p.defaultZone) p.format] := by
  unfold materializeItem zoned
  split <;> rfl

/-- Storing an entry: one record when it does not recur, else the records of its schedule up to
the horizon, those of the window's events kept once; it fails only on a calendar overflow. -/
theorem materializeItem_outcome (i : Item) (now : Instant) :
    ((p.zoned i).recurrence = none ↔ ∀ r, i.rule = some r →
      (Text.trim r).isEmpty ∨ ∃ e, Schedule.build r i.start i.stop (p.zoned i).zone = .error e) ∧
    ((p.zoned i).recurrence = none → p.materializeItem i now =
      .ok [materializeSingle i.start i.stop ((TimeZone.ofName? (p.zoned i).zone).getD p.defaultZone)
        p.format]) ∧
    (∀ s, (p.zoned i).recurrence.map (·.withMaxOccurrences p.maxOccurrences) = some s →
      p.materializeItem i now = s.materialize (p.horizon now) p.format ∧
      ∀ zs, s.RunsTo (some (p.horizon now)) zs → ∀ rs, (p.materializeItem i now = .ok rs ↔
        ∃ os, (windowStarts zs (some s.start) (some (p.horizon now))).mapM s.occurrenceAt = .ok os ∧
          rs = dedupAdjacent (os.map fun o =>
            ⟨p.format.renderIn s.zone o.start, p.format.renderIn s.zone o.stop⟩))) ∧
    (∀ e, p.materializeItem i now = .error e → e = .overflow) := by
  refine ⟨?_, fun hnone => ?_, fun s hs => ?_, fun e he => ?_⟩
  · simpa using Item.recurrence_eq_none_iff (p.zoned i)
  · rw [materializeItem_eq, hnone]
  · obtain ⟨s₀, hs₀, rfl⟩ := Option.map_eq_some_iff.1 hs
    have hm : p.materializeItem i now =
        (s₀.withMaxOccurrences p.maxOccurrences).materialize (p.horizon now) p.format := by
      rw [materializeItem_eq, hs₀]
    exact ⟨hm, fun zs hrun rs => hm ▸ Schedule.materialize_eq_ok_iff hrun p.format rs⟩
  · -- a single record is always stored, so the failure comes from the schedule
    rw [materializeItem_eq] at he
    split at he
    · exact Schedule.materialize_eq_error he
    · cases he

/-- A window of 357913941 years and 3 months puts the horizon at the calendar's last instant,
which Tokyo cannot show, so a daily event there is not stored: its walk overflows. -/
theorem materialize_past_wall_calendar :
    let tokyo : TimeZone := ⟨"Asia/Tokyo", ⟨⟨32400, 0, "JST"⟩, #[]⟩⟩
    let p : Policy := ⟨⟨4294967295, 0⟩, .dateTime, tokyo, defaultMaxOccurrences⟩
    let s : Schedule := ⟨⟨some { Rule.every .daily with bound := .count 2 }, none, [], []⟩,
      ⟨1704099600000000000⟩, ⟨1704099600000000000⟩, tokyo, defaultMaxOccurrences⟩
    let now : Instant := ⟨1704067200000000000⟩
    Window.ofText "P357913941Y3M" = .ok p.window ∧ p.horizon now = Instant.last ∧
      (tokyo.zonedAt Instant.last).wall.inRange = false ∧
      (s.withMaxOccurrences p.maxOccurrences).materialize (p.horizon now) p.format =
        .error .overflow := by
  intro tokyo p s now
  have hwindow : Window.ofText "P357913941Y3M" = .ok p.window := by decide
  have hlast : p.horizon now = Instant.last := by decide +kernel
  rw [hlast]
  exact ⟨hwindow, rfl, by decide +kernel, by decide +kernel⟩

end Policy

end Cadence
