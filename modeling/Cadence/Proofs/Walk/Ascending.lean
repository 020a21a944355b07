import Cadence.Proofs.Walk.Skipping
import Cadence.Proofs.Rule.RuleText

/-!
# Candidates only move forward

Period `i` of a rule's walk covers a stretch of the wall clock that starts at
`Rule.periodStart r a i`: midnight of the first day of its year, month, week or day, or for an
intraday rule the start of the hour, minute or second its step falls in. Every candidate of the
period lies in its stretch, before the stretch of period `i + 1` starts, and the candidates of
one period ascend (`Rule.expand_ascendingIn`). The stretches follow one another, since a rule
steps by a positive interval (`Rule.periodStart_mono`), and the period a walk expands after a
period has a larger index. So every candidate of a period comes before every candidate of the
periods expanded after it (`Rule.expand_candidate_lt`), and the candidates of the periods a
walk visits, joined in order, are strictly ascending (`Rule.candidatesFrom_pairwise`).

The rule's parts must be in the ranges its text allows: an interval of at least one, and sets
of hours, minutes and seconds, ascending, with minutes and seconds below 60.
-/
namespace Cadence

/-- Wall times in ascending order, each from `lo` to before `hi`, in nanoseconds. -/
structure AscendingIn (cs : List WallTime) (lo hi : Int) : Prop where
  pairwise : cs.Pairwise (· < ·)
  within : ∀ c ∈ cs, lo ≤ c.nanos ∧ c.nanos < hi

namespace AscendingIn

theorem nil (lo hi : Int) : AscendingIn [] lo hi := ⟨.nil, by simp⟩

theorem mono {cs : List WallTime} {lo hi lo' hi' : Int} (h : AscendingIn cs lo hi)
    (hlo : lo' ≤ lo) (hhi : hi ≤ hi') : AscendingIn cs lo' hi' :=
  ⟨h.pairwise, fun c hc => ⟨le_trans hlo (h.within c hc).1, lt_of_lt_of_le (h.within c hc).2 hhi⟩⟩

end AscendingIn

theorem Rule.PartsInRange.clockSets {r : Rule} (hr : r.PartsInRange) : r.ClockSets :=
  ⟨hr.byHour.1, hr.byMinute.1, hr.bySecond.1⟩

theorem Frequency.unitSeconds_pos (f : Frequency) : 0 < f.unitSeconds := by
  cases f <;> simp [Frequency.unitSeconds]

theorem ediv_mul_add_le {x k M : Int} (hM : 0 < M) (hk : 1 ≤ k) :
    x / M * M + M ≤ (x + k * M) / M * M := by
  rw [Int.add_mul_ediv_right _ _ (ne_of_gt hM), Int.add_mul]
  nlinarith

/-! ## The days of a year -/

namespace Date

theorem monthStart_year_succ (y : Int) : monthStart (12 * y + 12) = toDays ⟨y, 12, 31⟩ + 1 := by
  have h := monthStart_succ y (m := 12) (by omega) le_rfl
  rw [show 12 * y + ((12 : Nat) - 1 : Int) + 1 = 12 * y + 12 by omega] at h
  simpa [monthLength] using h

end Date

/-! ## The candidates of a period of days -/

section Days

variable {r : Rule} {a : WallTime} {i : Int} {p : Period}

theorem combineDates_ascendingIn (hc : r.ClockSets) (a : WallTime) {ds : List Date} {lo hi : Int}
    (hds : ∀ d ∈ ds, lo ≤ d.toDays ∧ d.toDays ≤ hi) :
    AscendingIn (combineDates ds (r.timesOfDay a)) (lo * nanosPerDay) ((hi + 1) * nanosPerDay) := by
  obtain ⟨ht, hday⟩ := Rule.timesOfDay_ascending hc a
  obtain ⟨hpair, hmem⟩ := @combineDates_spec ds _ ht hday
  refine ⟨hpair, fun c hcand => ?_⟩
  obtain ⟨d, hd, s, hs, rfl⟩ := (hmem c).1 hcand
  have hdays := hds d hd
  have hsec := hday s hs
  simp only [WallTime.ofDays, nanosPerDay, secondsPerDay, nanosPerSecond]
  omega

theorem Rule.expandYearly_ascendingIn (hc : r.ClockSets) (h : r.expandYearly a i = .ok (some p)) :
    AscendingIn p.candidates (Date.monthStart (12 * (a.date.year + i * r.interval)) * nanosPerDay)
      (Date.monthStart (12 * (a.date.year + i * r.interval) + 12) * nanosPerDay) := by
  obtain ⟨ds, hds, rfl⟩ := Rule.expandYearly_dates h
  rw [Date.monthStart_year, Date.monthStart_year_succ]
  exact combineDates_ascendingIn hc a hds

theorem Rule.expandMonthly_ascendingIn (hc : r.ClockSets) (h : r.expandMonthly a i = .ok (some p)) :
    AscendingIn p.candidates
      (Date.monthStart (12 * a.date.year + ((a.date.month : Int) - 1) + i * r.interval) * nanosPerDay)
      (Date.monthStart (12 * a.date.year + ((a.date.month : Int) - 1) + i * r.interval + 1) *
        nanosPerDay) := by
  obtain ⟨y, m, ds, hM, h1, h2, hds, rfl⟩ := Rule.expandMonthly_dates h
  -- the month index is month `m` of year `y`
  rw [← hM, Date.monthStart_month y h1 h2, Date.monthStart_succ y h1 h2]
  exact combineDates_ascendingIn hc a hds

theorem Rule.expandWeekly_ascendingIn (hc : r.ClockSets) (h : r.expandWeekly a i = some p) :
    AscendingIn p.candidates
      ((a.date.toDays - Weekday.daysFrom a.date.weekday r.weekStart + 7 * (i * r.interval)) *
        nanosPerDay)
      ((a.date.toDays - Weekday.daysFrom a.date.weekday r.weekStart + 7 * (i * r.interval) + 7) *
        nanosPerDay) := by
  obtain ⟨first, weekStart, ds, hfirst, hweek, hds, rfl⟩ := Rule.expandWeekly_dates h
  -- the week starts on the anchor's first day of the week, moved by whole weeks
  have hstart : weekStart.toDays =
      a.date.toDays - Weekday.daysFrom a.date.weekday r.weekStart + 7 * (i * r.interval) := by
    rw [hweek, Date.toDays_addDays? hfirst]
    omega
  have hweekDays : ∀ d ∈ ds, weekStart.toDays ≤ d.toDays ∧ d.toDays ≤ weekStart.toDays + 6 := hds
  refine (combineDates_ascendingIn hc a hweekDays).mono ?_ ?_
  all_goals
    simp only [nanosPerDay, secondsPerDay, nanosPerSecond]
    omega

theorem Rule.expandDaily_ascendingIn (hc : r.ClockSets) (h : r.expandDaily a i = some p) :
    AscendingIn p.candidates ((a.date.toDays + i * r.interval) * nanosPerDay)
      ((a.date.toDays + i * r.interval + 1) * nanosPerDay) := by
  obtain ⟨date, ds, hdate, hds, rfl⟩ := Rule.expandDaily_dates h
  rw [← hdate]
  refine combineDates_ascendingIn hc a fun d hd => ?_
  rw [hds d hd]
  exact ⟨Int.le_refl _, Int.le_refl _⟩

end Days

/-! ## The candidates of an intraday step -/

section Steps

variable {r : Rule} {a : WallTime} {i : Int} {p : Period}

theorem valuesOr_le {xs : List Nat} {a b : Nat} (hxs : ∀ x ∈ xs, x ≤ b) (ha : a ≤ b) :
    ∀ x ∈ valuesOr xs a, x ≤ b := by
  unfold valuesOr
  split_ifs
  · simpa using ha
  · exact hxs

theorem minuteSeconds_pairwise {ms ss : List Nat} (hms : ms.Pairwise (· < ·))
    (hss : ss.Pairwise (· < ·)) (hs : ∀ s ∈ ss, s ≤ 59) :
    (ms.flatMap fun m => ss.map fun s => m * 60 + s).Pairwise (· < ·) := by
  refine List.pairwise_flatMap.2 ⟨fun m _ => List.pairwise_map.2 (hss.imp fun h => by omega),
    hms.imp fun {m m'} hmm' x hx y hy => ?_⟩
  obtain ⟨s, hs', rfl⟩ := List.mem_map.1 hx
  obtain ⟨s', -, rfl⟩ := List.mem_map.1 hy
  have := hs s hs'
  omega

theorem Rule.slotCandidates_ascendingIn (hr : r.PartsInRange) (t : WallTime) :
    AscendingIn (r.slotCandidates t)
      (t.nanos / (r.frequency.unitSeconds * nanosPerSecond) * (r.frequency.unitSeconds * nanosPerSecond))
      (t.nanos / (r.frequency.unitSeconds * nanosPerSecond) * (r.frequency.unitSeconds * nanosPerSecond) +
        r.frequency.unitSeconds * nanosPerSecond) := by
  have hsec : ∀ s ∈ valuesOr r.bySecond t.second, s ≤ 59 :=
    valuesOr_le (fun s hs => (hr.bySecond.2 s hs).2) (by unfold WallTime.second; omega)
  cases hf : r.frequency
  case hourly =>
    -- each minute and second of the step's hour, counted from the start of the hour
    have hmin : ∀ m ∈ valuesOr r.byMinute t.minute, m ≤ 59 :=
      valuesOr_le (fun m hm => (hr.byMinute.2 m hm).2) (by unfold WallTime.minute; omega)
    have hslot : r.slotCandidates t = ((valuesOr r.byMinute t.minute).flatMap fun m =>
        (valuesOr r.bySecond t.second).map fun s => (m * 60 + s : Nat)).map fun (x : Nat) =>
          ⟨(WallTime.ofDays t.date.toDays (t.hour * 3600)).nanos + (x : Int) * nanosPerSecond⟩ := by
      rw [Rule.slotCandidates_of_hourly hf, List.map_flatMap]
      simp only [List.map_map, Function.comp_def]
    have hstart : (WallTime.ofDays t.date.toDays (t.hour * 3600)).nanos =
        t.nanos / (3600 * nanosPerSecond) * (3600 * nanosPerSecond) := by
      simp only [WallTime.ofDays, WallTime.toDays_date, WallTime.hour, WallTime.secondOfDay,
        nanosPerDay, secondsPerDay, nanosPerSecond]
      omega
    rw [hslot]
    refine ⟨List.pairwise_map.2 ((minuteSeconds_pairwise (valuesOr_pairwise hr.byMinute.1 _)
      (valuesOr_pairwise hr.bySecond.1 _) hsec).imp fun h => ?_), fun c hc => ?_⟩
    · show (_ : Int) < _
      simp only [nanosPerSecond]
      omega
    · obtain ⟨x, hx, rfl⟩ := List.mem_map.1 hc
      obtain ⟨m, hm, hx⟩ := List.mem_flatMap.1 hx
      obtain ⟨s, hs, rfl⟩ := List.mem_map.1 hx
      have := hmin m hm
      have := hsec s hs
      simp only [hstart, Frequency.unitSeconds, nanosPerSecond]
      omega
  case minutely =>
    -- each second of the step's minute, keeping its fraction of a second
    simp only [Rule.slotCandidates, hf, Frequency.unitSeconds]
    refine ⟨List.pairwise_map.2 ((valuesOr_pairwise hr.bySecond.1 _).imp fun h => ?_),
      fun c hc => ?_⟩
    · show (_ : Int) < _
      simp only [WallTime.withSecond, nanosPerSecond]
      omega
    · obtain ⟨s, hs, rfl⟩ := List.mem_map.1 hc
      have := hsec s hs
      simp only [WallTime.withSecond, WallTime.second, WallTime.secondOfDay, nanosPerDay,
        secondsPerDay, nanosPerSecond]
      omega
  all_goals
    simp only [Rule.slotCandidates, hf, Frequency.unitSeconds]
    refine ⟨List.pairwise_singleton _ _, fun c hc => ?_⟩
    rw [List.mem_singleton.1 hc]
    simp only [nanosPerSecond]
    omega

theorem Rule.expandIntraday_ascendingIn (hr : r.PartsInRange) (h : r.expandIntraday a i = some p) :
    AscendingIn p.candidates
      ((a.nanos + i * (r.frequency.unitSeconds * r.interval) * nanosPerSecond) /
        (r.frequency.unitSeconds * nanosPerSecond) * (r.frequency.unitSeconds * nanosPerSecond))
      ((a.nanos + i * (r.frequency.unitSeconds * r.interval) * nanosPerSecond) /
        (r.frequency.unitSeconds * nanosPerSecond) * (r.frequency.unitSeconds * nanosPerSecond) +
          r.frequency.unitSeconds * nanosPerSecond) := by
  -- a step the filters reject gives nothing; one they pass gives its slot's candidates
  obtain ⟨C, hC, -, ⟨-, hcand, -⟩ | ⟨-, hcand, -⟩⟩ := Rule.expandIntraday_cases h
  · rw [hcand, ← WallTime.nanos_addSeconds? hC]
    exact Rule.slotCandidates_ascendingIn hr C
  · rw [hcand]
    exact AscendingIn.nil _ _

end Steps

/-! ## The stretches of the wall clock that periods cover -/

/-- Where the stretch of the wall clock that period `i` covers starts, in nanoseconds: midnight of
its year, month, week or day, or the start of its hour, minute or second. -/
def Rule.periodStart (r : Rule) (a : WallTime) (i : Int) : Int :=
  match r.frequency with
  | .yearly => Date.monthStart (12 * (a.date.year + i * r.interval)) * nanosPerDay
  | .monthly =>
    Date.monthStart (12 * a.date.year + ((a.date.month : Int) - 1) + i * r.interval) * nanosPerDay
  | .weekly =>
    (a.date.toDays - Weekday.daysFrom a.date.weekday r.weekStart + 7 * (i * r.interval)) *
      nanosPerDay
  | .daily => (a.date.toDays + i * r.interval) * nanosPerDay
  | f => (a.nanos + i * (f.unitSeconds * r.interval) * nanosPerSecond) /
      (f.unitSeconds * nanosPerSecond) * (f.unitSeconds * nanosPerSecond)

namespace Rule

variable {r : Rule} {a : WallTime} {i j : Int} {p q : Period}

theorem periodStart_intraday (hf : r.frequency = .hourly ∨ r.frequency = .minutely ∨
    r.frequency = .secondly) (a : WallTime) (i : Int) :
    r.periodStart a i = (a.nanos + i * (r.frequency.unitSeconds * r.interval) * nanosPerSecond) /
      (r.frequency.unitSeconds * nanosPerSecond) * (r.frequency.unitSeconds * nanosPerSecond) := by
  unfold periodStart
  rcases hf with hf | hf | hf <;> rw [hf]

/-- The stretches of later periods start no earlier. -/
theorem periodStart_mono (r : Rule) (a : WallTime) (hij : i ≤ j) :
    r.periodStart a i ≤ r.periodStart a j := by
  have hstep : i * r.interval ≤ j * r.interval :=
    Int.mul_le_mul_of_nonneg_right hij (Int.natCast_nonneg _)
  have hD : (0 : Int) ≤ nanosPerDay := by decide
  unfold periodStart
  split
  · exact Int.mul_le_mul_of_nonneg_right (Date.monthStart_mono (by omega)) hD
  · exact Int.mul_le_mul_of_nonneg_right (Date.monthStart_mono (by omega)) hD
  · exact Int.mul_le_mul_of_nonneg_right (by omega) hD
  · exact Int.mul_le_mul_of_nonneg_right (by omega) hD
  · -- a later step falls in the same unit of time or a later one
    have hu := r.frequency.unitSeconds_pos
    have hM : 0 < r.frequency.unitSeconds * nanosPerSecond := Int.mul_pos hu (by decide)
    have hunits : i * (r.frequency.unitSeconds * r.interval) ≤
        j * (r.frequency.unitSeconds * r.interval) :=
      Int.mul_le_mul_of_nonneg_right hij (Int.mul_nonneg hu.le (Int.natCast_nonneg _))
    refine Int.mul_le_mul_of_nonneg_right (Int.ediv_le_ediv hM ?_) hM.le
    simp only [nanosPerSecond]
    omega

/-- Period `i` of a rule's walk gives ascending wall times of its stretch of the wall clock,
before the stretch of period `i + 1` starts. -/
theorem expand_ascendingIn (hr : r.PartsInRange) (h : r.expand a i = .ok (some p)) :
    AscendingIn p.candidates (r.periodStart a i) (r.periodStart a (i + 1)) := by
  have hI : (1 : Int) ≤ r.interval := by
    have := hr.interval.1
    omega
  -- the next period lies a whole positive interval further on
  have hnext : (i + 1) * (r.interval : Int) = i * r.interval + r.interval := by ring
  unfold expand at h
  cases hf : r.frequency <;> simp only [hf] at h
  · -- a year ends before the next period's year starts
    simp only [periodStart, hf]
    refine (expandYearly_ascendingIn hr.clockSets h).mono le_rfl ?_
    have := Date.monthStart_mono (show 12 * (a.date.year + i * r.interval) + 12 ≤
      12 * (a.date.year + (i + 1) * r.interval) by omega)
    simp only [nanosPerDay, secondsPerDay, nanosPerSecond]
    omega
  · -- a month ends before the next period's month starts
    simp only [periodStart, hf]
    refine (expandMonthly_ascendingIn hr.clockSets h).mono le_rfl ?_
    have := Date.monthStart_mono (show
      12 * a.date.year + ((a.date.month : Int) - 1) + i * r.interval + 1 ≤
        12 * a.date.year + ((a.date.month : Int) - 1) + (i + 1) * r.interval by omega)
    simp only [nanosPerDay, secondsPerDay, nanosPerSecond]
    omega
  · simp only [periodStart, hf]
    refine (expandWeekly_ascendingIn hr.clockSets (Except.ok.inj h)).mono le_rfl ?_
    simp only [nanosPerDay, secondsPerDay, nanosPerSecond]
    omega
  · simp only [periodStart, hf]
    refine (expandDaily_ascendingIn hr.clockSets (Except.ok.inj h)).mono le_rfl ?_
    simp only [nanosPerDay, secondsPerDay, nanosPerSecond]
    omega
  all_goals
    -- an intraday step lies a whole positive number of units after the one before
    have hintra : r.frequency = .hourly ∨ r.frequency = .minutely ∨ r.frequency = .secondly := by
      simp [hf]
    rw [periodStart_intraday hintra, periodStart_intraday hintra]
    refine (expandIntraday_ascendingIn hr (Except.ok.inj h)).mono le_rfl ?_
    have hu := r.frequency.unitSeconds_pos
    rw [show a.nanos + (i + 1) * (r.frequency.unitSeconds * r.interval) * nanosPerSecond =
      a.nanos + i * (r.frequency.unitSeconds * r.interval) * nanosPerSecond +
        r.interval * (r.frequency.unitSeconds * nanosPerSecond) by ring]
    exact ediv_mul_add_le (Int.mul_pos hu (by decide)) hI

/-- Every candidate of a period comes before every candidate of a period the walk expands after
it. -/
theorem expand_candidate_lt (hr : r.PartsInRange) (hp : r.expand a i = .ok (some p))
    (hq : r.expand a j = .ok (some q)) (hj : p.next ≤ j) {c c' : WallTime}
    (hc : c ∈ p.candidates) (hc' : c' ∈ q.candidates) : c < c' := by
  have hnext := lt_expand_next hp
  have hlt := ((expand_ascendingIn hr hp).within c hc).2
  have hge := ((expand_ascendingIn hr hq).within c' hc').1
  have hmono := r.periodStart_mono a (show i + 1 ≤ j by omega)
  show c.nanos < c'.nanos
  omega

/-! ## The periods a walk visits -/

theorem candidatesFrom_succ_eq_ok {m : Nat} {cs : List WallTime}
    (h : r.candidatesFrom a i (m + 1) = .ok cs) :
    cs = [] ∨ ∃ p rest, r.expand a i = .ok (some p) ∧ r.candidatesFrom a p.next m = .ok rest ∧
      cs = p.candidates ++ rest := by
  cases he : r.expand a i with
  | error e => simp [candidatesFrom, he] at h
  | ok o =>
    cases o with
    | none =>
      rw [candidatesFrom_succ_of_none he] at h
      exact .inl (Except.ok.inj h).symm
    | some p =>
      rw [candidatesFrom_succ_of_some he] at h
      cases hrest : r.candidatesFrom a p.next m with
      | error e =>
        rw [hrest] at h
        cases h
      | ok rest =>
        rw [hrest] at h
        exact .inr ⟨p, rest, rfl, hrest, (Except.ok.inj h).symm⟩

theorem mem_candidatesFrom : ∀ {m : Nat} {i : Int} {cs : List WallTime},
    r.candidatesFrom a i m = .ok cs →
      ∀ c ∈ cs, ∃ j p, i ≤ j ∧ r.expand a j = .ok (some p) ∧ c ∈ p.candidates
  | 0, _, _, h => by
    cases h
    simp
  | m + 1, i, cs, h => by
    rcases candidatesFrom_succ_eq_ok h with rfl | ⟨p, rest, hp, hrest, rfl⟩
    · simp
    · intro c hc
      rcases List.mem_append.1 hc with hc | hc
      · exact ⟨i, p, le_rfl, hp, hc⟩
      · obtain ⟨j, q, hj, hq, hc⟩ := mem_candidatesFrom hrest c hc
        exact ⟨j, q, le_trans (lt_expand_next hp).le hj, hq, hc⟩

/-- The candidates of the periods a walk visits from index `i`, each at the index the one before
gives, are strictly ascending. -/
theorem candidatesFrom_pairwise (hr : r.PartsInRange) : ∀ {m : Nat} {i : Int} {cs : List WallTime},
    r.candidatesFrom a i m = .ok cs → cs.Pairwise (· < ·)
  | 0, _, _, h => by
    cases h
    exact .nil
  | m + 1, i, cs, h => by
    rcases candidatesFrom_succ_eq_ok h with rfl | ⟨p, rest, hp, hrest, rfl⟩
    · exact .nil
    · refine List.pairwise_append.2 ⟨(expand_ascendingIn hr hp).pairwise,
        candidatesFrom_pairwise hr hrest, fun c hc c' hc' => ?_⟩
      -- every later candidate comes from a period at the next index or after it
      obtain ⟨j, q, hj, hq, hc'⟩ := mem_candidatesFrom hrest c' hc'
      exact expand_candidate_lt hr hp hq hj hc hc'

end Rule

end Cadence
