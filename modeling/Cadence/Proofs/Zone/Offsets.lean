import Cadence.Rule.Stamp
import Cadence.Proofs.Calendar.DayCount

/-!
# Offsets of a zone and the wall times it resolves

A wall time that a zone resolves is shown on the zone's clock at the instant found: it is the
wall time itself, or, for a wall time in a gap, the time an hour later. `TimeZone.Regular`
gathers what the walk of a rule assumes of a zone: the instant found for a wall time carries
the zone's offset at that instant, every offset is less than a day, and the clock is never
turned back by more than a day within a day. Under these, a wall time more than a day after
the wall time of an instant resolves to a later instant (`TimeZone.Regular.lt_resolve`), so a
day of slack on the wall clock covers every change of offset.
-/

namespace Cadence

@[simp] theorem WallTime.toWall_toInstant (w : WallTime) (offset : Int) :
    (w.toInstant offset).toWall offset = w := by
  simp [WallTime.toInstant, Instant.toWall]

theorem ZonedTime.wall_nanos (t : ZonedTime) :
    t.wall.nanos = t.instant.nanos + t.offset * nanosPerSecond := rfl

theorem Instant.le_def (a b : Instant) : a ≤ b ↔ a.nanos ≤ b.nanos := Iff.rfl

theorem Instant.lt_def (a b : Instant) : a < b ↔ a.nanos < b.nanos := Iff.rfl

/-! ## A zone of one fixed offset -/

namespace Zone.SpanSet

variable {s : SpanSet}

theorem get_of_fixed (h : s.rest = #[]) (i : Nat) : s.get i = s.first := by
  unfold get
  split
  · rfl
  · simp [h]

theorem spanAt_of_fixed (h : s.rest = #[]) (t : Int) : s.spanAt t = s.first := by
  unfold spanAt
  split
  · exact get_of_fixed h _
  · rfl

end Zone.SpanSet

namespace TimeZone

/-- A zoned time that carries the zone's offset at its instant. -/
def Shows (z : TimeZone) (t : ZonedTime) : Prop := t.offset = z.offsetAt t.instant

@[simp] theorem shows_zonedAt (z : TimeZone) (t : Instant) : z.Shows (z.zonedAt t) := rfl

theorem wall_of_earliest_ofWall {z : TimeZone} {w : WallTime} {t : ZonedTime}
    (h : (z.ofWall w).earliest = some t) : t.wall = w := by
  unfold ofWall at h
  -- whichever spans show the wall time, the instant is read with the offset of the first
  generalize z.spans.spansAtWall w.seconds = spans at h
  cases spans with
  | none => cases h
  | single s =>
    simp only [Zone.Resolution.bind?] at h
    split at h
    · rename_i hs
      split at hs
      · cases hs
        cases h
        simp [ZonedTime.wall]
      · cases hs
    · cases h
  | ambiguous s s' =>
    simp only [Zone.Resolution.bind?] at h
    split at h
    · rename_i hs _
      split at hs
      · cases hs
        cases h
        simp [ZonedTime.wall]
      · cases hs
    · cases h

theorem wall_of_resolve {z : TimeZone} {w : WallTime} {t : ZonedTime} (h : z.resolve w = some t) :
    t.wall = w ∨ t.wall.nanos = w.nanos + 3600 * nanosPerSecond := by
  unfold resolve at h
  split at h
  · rename_i hw
    cases h
    exact .inl (wall_of_earliest_ofWall (by rw [hw]; rfl))
  · rename_i hw
    cases h
    exact .inl (wall_of_earliest_ofWall (by rw [hw]; rfl))
  · obtain ⟨later, hlater, h⟩ := Option.bind_eq_some_iff.1 h
    rw [wall_of_earliest_ofWall h]
    unfold WallTime.addSeconds? at hlater
    dsimp only at hlater
    split at hlater
    · cases hlater
      exact .inr rfl
    · cases hlater

theorem le_wall_of_resolve {z : TimeZone} {w : WallTime} {t : ZonedTime}
    (h : z.resolve w = some t) : w.nanos ≤ t.wall.nanos := by
  rcases wall_of_resolve h with h | h
  · rw [h]
  · rw [h]
    simp only [nanosPerSecond]
    omega

theorem earliest_of_resolve {z : TimeZone} {w : WallTime} {t : ZonedTime}
    (h : z.resolve w = some t) : ∃ w', (z.ofWall w').earliest = some t := by
  unfold resolve at h
  split at h
  · rename_i hw
    cases h
    exact ⟨w, by rw [hw]; rfl⟩
  · rename_i hw
    cases h
    exact ⟨w, by rw [hw]; rfl⟩
  · obtain ⟨later, -, h⟩ := Option.bind_eq_some_iff.1 h
    exact ⟨later, h⟩

/-- What a walk assumes of its zone's offsets. Offsets here are those of the zone at an
instant, in seconds east of UTC. -/
structure Regular (z : TimeZone) : Prop where
  /-- The instant found for a wall time carries the zone's offset at that instant. -/
  resolve_offset : ∀ {w : WallTime} {t : ZonedTime}, z.resolve w = some t → z.Shows t
  /-- Every offset is less than a day, east or west. -/
  offset_lt : ∀ t, z.offsetAt t < secondsPerDay
  offset_gt : ∀ t, -secondsPerDay < z.offsetAt t
  /-- The clock is never turned back by more than a day: between two instants less than a
  day apart the offset falls by at most a day. -/
  fallBack_le : ∀ t u : Instant, t ≤ u → u.nanos < t.nanos + nanosPerDay →
    z.offsetAt t ≤ z.offsetAt u + secondsPerDay

/-- A day of slack on the wall clock covers every change of offset: a wall time more than a
day after the wall time of a zoned time of the zone resolves to a later instant. -/
theorem Regular.lt_resolve {z : TimeZone} (hz : z.Regular) {u t : ZonedTime} {w : WallTime}
    (hu : z.Shows u) (hw : u.wall.nanos + nanosPerDay < w.nanos) (ht : z.resolve w = some t) :
    u.instant < t.instant := by
  have hwall := le_wall_of_resolve ht
  have htu : t.offset = z.offsetAt t.instant := hz.resolve_offset ht
  rw [ZonedTime.wall_nanos] at hwall hw
  show u.instant.nanos < t.instant.nanos
  by_contra hle
  -- the instant found would carry an offset more than a day above the end's
  by_cases hnear : u.instant.nanos < t.instant.nanos + nanosPerDay
  · have hfall := hz.fallBack_le t.instant u.instant
      (show t.instant.nanos ≤ u.instant.nanos by omega) hnear
    unfold Shows at hu
    simp only [nanosPerDay, secondsPerDay, nanosPerSecond] at *
    omega
  · have ht1 := hz.offset_lt t.instant
    have hu1 := hz.offset_gt u.instant
    unfold Shows at hu
    simp only [nanosPerDay, secondsPerDay, nanosPerSecond] at *
    omega

theorem Regular.shows_resolveUpper {z : TimeZone} (hz : z.Regular) {s : Stamp} {u : ZonedTime}
    (h : s.resolveUpper z = some u) : z.Shows u := by
  unfold Stamp.resolveUpper Stamp.resolve at h
  split at h
  · exact hz.resolve_offset h
  · split at h
    · cases h
      exact shows_zonedAt _ _
    · exact hz.resolve_offset h
    · exact hz.resolve_offset h

/-! ## Days of a zone -/

/-- The day on the zone's wall clock at an instant, counted from 1970-01-01. -/
def dayAt (z : TimeZone) (t : Instant) : Int :=
  (t.toWall (z.offsetAt t)).nanos / nanosPerDay

/-- The zone's wall clock never goes back to an earlier day: no later instant is on an earlier
day. -/
def DaysForward (z : TimeZone) : Prop :=
  ∀ t u : Instant, t ≤ u → z.dayAt t ≤ z.dayAt u

theorem offsetAt_of_fixed {z : TimeZone} (hfix : z.spans.rest = #[]) (t : Instant) :
    z.offsetAt t = z.spans.first.total :=
  congrArg Zone.Span.total (Zone.SpanSet.spanAt_of_fixed hfix t.seconds)

theorem daysForward_of_fixed {z : TimeZone} (hfix : z.spans.rest = #[]) : z.DaysForward := by
  intro t u h
  simp only [dayAt, offsetAt_of_fixed hfix, Instant.toWall]
  rw [Instant.le_def] at h
  exact Int.ediv_le_ediv (by decide) (by omega)

theorem Shows.dayAt_eq {z : TimeZone} {t : ZonedTime} (h : z.Shows t) :
    z.dayAt t.instant = t.wall.date.toDays := by
  rw [WallTime.toDays_date, dayAt, ← h]
  rfl

end TimeZone

end Cadence
