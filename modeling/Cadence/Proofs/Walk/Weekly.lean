import Cadence.Proofs.Walk.Expansion

/-!
# The candidates of weekly periods

A weekly rule walks weeks that begin on its first day of the week: period `k` is the week that
starts `k * interval` weeks after the start of the week holding the anchor. Where that week lies
in the calendar, the period starts at midnight of its first day and gives every day of the week
that falls on one of the rule's weekdays (the anchor's, when it names none) and in one of its
months, at every time of day of the rule, in ascending order and without repeats
(`Rule.expandWeekly_candidates`).

Weeks are read off day counts. The weekday of a day is its count modulo seven, so the days
forward from one weekday to another are the difference of two counts modulo seven
(`Date.daysFrom_weekdayOfDays`), and a day lies in the week that starts on `ws` exactly when it
is one of the seven days from `ws` (`startOfWeek_eq_some_iff`), whatever weekday weeks start on.
-/
namespace Cadence

namespace Date

/-- The days forward from the weekday of one day count to that of another. -/
theorem daysFrom_weekdayOfDays (a b : Int) :
    Weekday.daysFrom (weekdayOfDays a) (weekdayOfDays b) = ((a - b) % 7).toNat := by
  unfold Weekday.daysFrom
  rw [weekdayOfDays_index, weekdayOfDays_index]
  omega

theorem addDays?_eq_some_iff {d e : Date} {n : Int} (he : e.Valid) :
    d.addDays? n = some e ↔
      minDays ≤ d.toDays + n ∧ d.toDays + n ≤ maxDays ∧ e.toDays = d.toDays + n := by
  unfold addDays? ofDays? daysInRange
  by_cases hin : minDays ≤ d.toDays + n ∧ d.toDays + n ≤ maxDays
  · have hr : (decide (minDays ≤ d.toDays + n) && decide (d.toDays + n ≤ maxDays)) = true := by
      simp [hin]
    rw [if_pos hr, Option.some.injEq]
    constructor
    · rintro rfl
      exact ⟨hin.1, hin.2, toDays_ofDays _⟩
    · rintro ⟨-, -, he'⟩
      rw [← he', ofDays_toDays he]
  · have hr : (decide (minDays ≤ d.toDays + n) && decide (d.toDays + n ≤ maxDays)) = false := by
      simpa using hin
    rw [if_neg (by simp [hr])]
    simp only [reduceCtorEq, false_iff]
    exact fun h => hin ⟨h.1, h.2.1⟩

theorem weekday_ofDays_daysFrom (ws : Date) (w : Weekday) :
    (ofDays (ws.toDays + Weekday.daysFrom w ws.weekday)).weekday = w := by
  rw [weekday_ofDays]
  exact weekdayOfDays_add_daysFrom _ _

theorem week_day_iff (ws : Date) {P : Weekday → Prop} (d : Date) :
    (∃ w, P w ∧ d = ofDays (ws.toDays + Weekday.daysFrom w ws.weekday)) ↔
      d.Valid ∧ ws.toDays ≤ d.toDays ∧ d.toDays < ws.toDays + 7 ∧ P d.weekday := by
  constructor
  · rintro ⟨w, hw, rfl⟩
    have hlt := Weekday.daysFrom_lt w ws.weekday
    rw [toDays_ofDays, weekday_ofDays_daysFrom]
    exact ⟨ofDays_valid _, by omega, by omega, hw⟩
  · rintro ⟨hv, hlo, hhi, hP⟩
    refine ⟨d.weekday, hP, ?_⟩
    -- a day of the week lies as many days after its start as its weekday does
    have hfrom : Weekday.daysFrom d.weekday ws.weekday = ((d.toDays - ws.toDays) % 7).toNat :=
      daysFrom_weekdayOfDays _ _
    rw [hfrom, show ws.toDays + (((d.toDays - ws.toDays) % 7).toNat : Int) = d.toDays by omega,
      ofDays_toDays hv]

end Date

/-- The week that starts on a day within the calendar holds the seven days from it. -/
theorem startOfWeek_eq_some_iff {d ws : Date} {w : Weekday} (hws : ws.Valid) (hw : ws.weekday = w)
    (hlo : Date.minDays ≤ ws.toDays) (hhi : ws.toDays ≤ Date.maxDays) :
    startOfWeek d w = some ws ↔ ws.toDays ≤ d.toDays ∧ d.toDays < ws.toDays + 7 := by
  subst hw
  have hfrom : Weekday.daysFrom d.weekday ws.weekday = ((d.toDays - ws.toDays) % 7).toNat :=
    Date.daysFrom_weekdayOfDays _ _
  rw [startOfWeek, Date.addDays?_eq_some_iff hws, hfrom]
  omega

theorem weekday_of_startOfWeek {d ws : Date} {w : Weekday} (h : startOfWeek d w = some ws) :
    ws.weekday = w := by
  have hv := Date.valid_of_addDays? h
  obtain ⟨-, -, hdays⟩ := (Date.addDays?_eq_some_iff hv).1 h
  unfold Date.weekday
  rw [hdays, ← sub_eq_add_neg]
  exact Date.weekdayOfDays_sub_daysFrom _ _

theorem Rule.weekDates_spec (r : Rule) (ws : Date) (hlo : Date.minDays ≤ ws.toDays)
    (hhi : ws.toDays + 6 ≤ Date.maxDays) :
    ∀ wds : List Weekday, ∃ ds, r.weekDates ws wds = some ds ∧ ∀ d, d ∈ ds ↔
      (∃ w ∈ wds, d = Date.ofDays (ws.toDays + Weekday.daysFrom w r.weekStart)) ∧
        (r.byMonth = [] ∨ d.month ∈ r.byMonth)
  | [] => ⟨[], rfl, by simp⟩
  | w :: wds => by
    obtain ⟨rest, hrest, hmem⟩ := r.weekDates_spec ws hlo hhi wds
    have hlt := Weekday.daysFrom_lt w r.weekStart
    have hday : ws.addDays? (Weekday.daysFrom w r.weekStart) =
        some (Date.ofDays (ws.toDays + Weekday.daysFrom w r.weekStart)) :=
      (Date.addDays?_eq_some_iff (Date.ofDays_valid _)).2 ⟨by omega, by omega, Date.toDays_ofDays _⟩
    set e := Date.ofDays (ws.toDays + Weekday.daysFrom w r.weekStart) with he
    have hkeep : (r.byMonth.isEmpty || r.byMonth.contains e.month) = true ↔
        (r.byMonth = [] ∨ e.month ∈ r.byMonth) := by
      simp
    refine ⟨if (r.byMonth.isEmpty || r.byMonth.contains e.month) then e :: rest else rest,
      by simp [Rule.weekDates, hday, hrest], fun d => ?_⟩
    -- the day of the first weekday is kept with the others, or dropped
    split
    · rename_i hk
      rw [List.mem_cons, hmem]
      constructor
      · rintro (rfl | ⟨⟨v, hv, rfl⟩, hm⟩)
        · exact ⟨⟨w, List.mem_cons_self, rfl⟩, hkeep.1 hk⟩
        · exact ⟨⟨v, List.mem_cons_of_mem _ hv, rfl⟩, hm⟩
      · rintro ⟨⟨v, hv, rfl⟩, hm⟩
        rcases List.mem_cons.1 hv with rfl | hv
        · exact .inl rfl
        · exact .inr ⟨⟨v, hv, rfl⟩, hm⟩
    · rename_i hk
      rw [hmem]
      constructor
      · rintro ⟨⟨v, hv, rfl⟩, hm⟩
        exact ⟨⟨v, List.mem_cons_of_mem _ hv, rfl⟩, hm⟩
      · rintro ⟨⟨v, hv, rfl⟩, hm⟩
        rcases List.mem_cons.1 hv with rfl | hv
        · exact absurd (hkeep.2 hm) hk
        · exact ⟨⟨v, hv, rfl⟩, hm⟩

/-- The weekdays of a weekly rule: those of its `BYDAY` part, or the anchor's when it has none. -/
def Rule.WeeklyWeekday (r : Rule) (n : WallTime) (w : Weekday) : Prop :=
  if r.byDay = [] then w = n.date.weekday else ∃ e ∈ r.byDay, e.weekday = w

/-- The dates a weekly rule anchored at `n` selects in the week that starts on `ws`: days of
that week that fall on one of the rule's weekdays and in one of its months. -/
def Rule.WeeklyDate (r : Rule) (n : WallTime) (ws d : Date) : Prop :=
  d.Valid ∧ startOfWeek d r.weekStart = some ws ∧ r.WeeklyWeekday n d.weekday ∧
    (r.byMonth = [] ∨ d.month ∈ r.byMonth)

theorem Rule.mem_weekdays_iff (r : Rule) (n : WallTime) (w : Weekday) :
    w ∈ (if r.byDay.isEmpty then [n.date.weekday] else r.byDay.map (·.weekday)) ↔
      r.WeeklyWeekday n w := by
  unfold Rule.WeeklyWeekday
  by_cases hbd : r.byDay = []
  · simp [hbd]
  · have hbd' : r.byDay.isEmpty = false := by simpa using hbd
    simp [hbd, hbd']

theorem Date.calendar_days : -(2 ^ 30) ≤ minDays ∧ maxDays ≤ 2 ^ 30 := by decide

section Periods

variable {r : Rule}

theorem Rule.expandWeekly_selected {n : WallTime} {k : Int} {first ws : Date}
    (hfirst : startOfWeek n.date r.weekStart = some first)
    (hws : first.addDays? (7 * (k * r.interval)) = some ws) (hend : ws.toDays + 6 ≤ Date.maxDays) :
    ∃ ds, r.expandWeekly n k = some ⟨ws.midnight, combineDates ds (r.timesOfDay n), k + 1⟩ ∧
      (∀ d, d ∈ ds ↔ r.WeeklyDate n ws d) ∧
      ∀ d, r.WeeklyDate n ws d → ws.toDays ≤ d.toDays ∧ d.toDays < ws.toDays + 7 := by
  have hvalid : ws.Valid := Date.valid_of_addDays? hws
  obtain ⟨hlo, hhi, hdays⟩ := (Date.addDays?_eq_some_iff hvalid).1 hws
  obtain ⟨hflo, hfhi, hfdays⟩ :=
    (Date.addDays?_eq_some_iff (Date.valid_of_addDays? hfirst)).1 hfirst
  -- the week moved stays on the weekday weeks start on
  have hwd : ws.weekday = r.weekStart := by
    unfold Date.weekday
    rw [hdays, Date.weekdayOfDays_add_weeks]
    exact weekday_of_startOfWeek hfirst
  have hweek : ∀ d : Date, startOfWeek d r.weekStart = some ws ↔
      ws.toDays ≤ d.toDays ∧ d.toDays < ws.toDays + 7 :=
    fun d => startOfWeek_eq_some_iff hvalid hwd (by omega) (by omega)
  -- the weeks moved fit a count, as both weeks lie in the calendar
  have hcount : inCountRange (k * r.interval) = true := by
    have := Date.calendar_days
    exact inCountRange_of_small (by omega) (by omega)
  obtain ⟨ds, hds, hmem⟩ := r.weekDates_spec ws (by omega) (by omega)
    (if r.byDay.isEmpty then [n.date.weekday] else r.byDay.map (·.weekday))
  have hsel : ∀ d, d ∈ ds ↔ r.WeeklyDate n ws d := by
    intro d
    have hday := Date.week_day_iff ws
      (P := (· ∈ (if r.byDay.isEmpty then [n.date.weekday] else r.byDay.map (·.weekday)))) d
    rw [hwd] at hday
    rw [hmem, Rule.WeeklyDate, hweek, ← Rule.mem_weekdays_iff]
    constructor
    · rintro ⟨hw, hm⟩
      obtain ⟨hv, hlo', hhi', hW⟩ := hday.1 hw
      exact ⟨hv, ⟨hlo', hhi'⟩, hW, hm⟩
    · rintro ⟨hv, ⟨hlo', hhi'⟩, hW, hm⟩
      exact ⟨hday.2 ⟨hv, hlo', hhi', hW⟩, hm⟩
  refine ⟨ds, ?_, hsel, fun d hd => (hweek d).1 hd.2.1⟩
  -- `expandWeekly` tests for no weekdays with `isEmpty`, which `simp` rewrites to `= []`
  have hds' : r.weekDates ws (if r.byDay = [] then [n.date.weekday] else r.byDay.map (·.weekday)) =
      some ds := by simpa using hds
  simp [Rule.expandWeekly, hcount, hfirst, hws, hds']

/-- A weekly period in the calendar starts at midnight of its first day and gives every date of
the week the rule selects at every time of day, ascending and without repeats. -/
theorem Rule.expandWeekly_candidates (hc : r.ClockSets) {n : WallTime} {k : Int} {first ws : Date}
    (hfirst : startOfWeek n.date r.weekStart = some first)
    (hws : first.addDays? (7 * (k * r.interval)) = some ws) (hend : ws.toDays + 6 ≤ Date.maxDays) :
    ∃ p, r.expandWeekly n k = some p ∧ p.start = ws.midnight ∧ p.candidates.Pairwise (· < ·) ∧
      (∀ c, c ∈ p.candidates ↔ ∃ d, r.WeeklyDate n ws d ∧
        ∃ s ∈ r.timesOfDay n, c = WallTime.ofDays d.toDays s) ∧
      ∀ d, r.WeeklyDate n ws d → ws.toDays ≤ d.toDays ∧ d.toDays < ws.toDays + 7 := by
  obtain ⟨ds, hp, hmem, hwithin⟩ := Rule.expandWeekly_selected hfirst hws hend
  exact ⟨_, hp, rfl, (combineDates_selected hmem hc n).1, (combineDates_selected hmem hc n).2,
    hwithin⟩

/-- Period 1 of the two-weekly rule for Tuesdays and Sundays with weeks from Sunday, anchored on
Tuesday 2024-08-27 at 9:00: the week from Sunday 2024-09-08. -/
theorem Rule.expandWeekly_candidates_sunday_weeks :
    ∃ p, Rule.expandWeekly ⟨.weekly, 2, [⟨.tue, none⟩, ⟨.sun, none⟩], [], [], [], [], [], .sun,
        .count 4⟩ ⟨1724749200000000000⟩ 1 = some p ∧ p.start = Date.midnight ⟨2024, 9, 8⟩ ∧
      p.candidates.Pairwise (· < ·) ∧
      (∀ c, c ∈ p.candidates ↔ ∃ d, Rule.WeeklyDate ⟨.weekly, 2, [⟨.tue, none⟩, ⟨.sun, none⟩],
          [], [], [], [], [], .sun, .count 4⟩ ⟨1724749200000000000⟩ ⟨2024, 9, 8⟩ d ∧
        ∃ s ∈ Rule.timesOfDay ⟨.weekly, 2, [⟨.tue, none⟩, ⟨.sun, none⟩], [], [], [], [], [], .sun,
          .count 4⟩ ⟨1724749200000000000⟩, c = WallTime.ofDays d.toDays s) ∧
      ∀ d, Rule.WeeklyDate ⟨.weekly, 2, [⟨.tue, none⟩, ⟨.sun, none⟩], [], [], [], [], [], .sun,
          .count 4⟩ ⟨1724749200000000000⟩ ⟨2024, 9, 8⟩ d →
        Date.toDays ⟨2024, 9, 8⟩ ≤ d.toDays ∧ d.toDays < Date.toDays ⟨2024, 9, 8⟩ + 7 :=
  Rule.expandWeekly_candidates ⟨.nil, .nil, .nil⟩
    (show startOfWeek (⟨1724749200000000000⟩ : WallTime).date .sun = some ⟨2024, 8, 25⟩ by decide)
    (by decide) (by decide)

end Periods

end Cadence
