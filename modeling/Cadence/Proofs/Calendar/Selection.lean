import Cadence.Proofs.Walk.Anchor

/-!
# Days of a month and weekdays of a range

What the calendar selections of a period give, each stated by the days it selects. In a month
of a year before the calendar's last, `daysInMonth`, `firstOfMonth` and `lastOfMonth` give the
Gregorian length and the two ends of the month, and `selectMonthDay` gives the day counted from
either end of it (`selectMonthDay_eq_some_iff`). In a range of days with a week of the calendar
to spare on either side, `selectPositionalWeekday` gives the weekday at a position counted from
either end (`selectPositionalWeekday_spec`), and `weekdaysBetween` every such weekday of the
range, in order (`weekdaysBetween_spec`).

A weekday is read off a day count modulo seven, so "the `p`-th `w` from `first`" is the `w` in
the `p`-th run of seven days from `first` (`Date.IsNth`).
-/
namespace Cadence

namespace Weekday

theorem index_inj {a b : Weekday} : a.index = b.index ↔ a = b := by
  cases a <;> cases b <;> decide

theorem index_ofIndex (n : Nat) : (ofIndex n).index = n % 7 := by
  have h := Nat.mod_lt n (by decide : 7 > 0)
  unfold ofIndex
  generalize n % 7 = k at h ⊢
  interval_cases k <;> rfl

end Weekday

namespace Date

/-! ## Weekdays of day counts -/

theorem weekdayOfDays_index (n : Int) : (weekdayOfDays n).index = ((n + 3) % 7).toNat := by
  unfold weekdayOfDays
  rw [Weekday.index_ofIndex]
  omega

theorem weekdayOfDays_eq_iff {a b : Int} : weekdayOfDays a = weekdayOfDays b ↔ a % 7 = b % 7 := by
  rw [← Weekday.index_inj, weekdayOfDays_index, weekdayOfDays_index]
  omega

theorem weekday_ofDays (n : Int) : (ofDays n).weekday = weekdayOfDays n := by
  unfold weekday
  rw [toDays_ofDays]

theorem weekdayOfDays_add_weeks (n k : Int) : weekdayOfDays (n + 7 * k) = weekdayOfDays n :=
  weekdayOfDays_eq_iff.2 (by omega)

theorem weekdayOfDays_add_daysFrom (n : Int) (w : Weekday) :
    weekdayOfDays (n + Weekday.daysFrom w (weekdayOfDays n)) = w := by
  have hw := w.index_lt
  have hn := weekdayOfDays_index n
  rw [← Weekday.index_inj, weekdayOfDays_index]
  unfold Weekday.daysFrom
  omega

theorem weekdayOfDays_sub_daysFrom (n : Int) (w : Weekday) :
    weekdayOfDays (n - Weekday.daysFrom (weekdayOfDays n) w) = w := by
  have hw := w.index_lt
  have hn := weekdayOfDays_index n
  rw [← Weekday.index_inj, weekdayOfDays_index]
  unfold Weekday.daysFrom
  omega

theorem weeks_after_first {first d : Date} {w : Weekday} (hle : first ≤ d) (hw : d.weekday = w) :
    ∃ j : Nat, d.toDays = first.toDays + Weekday.daysFrom w first.weekday + 7 * j := by
  have hstep : weekdayOfDays (first.toDays + Weekday.daysFrom w first.weekday) =
      weekdayOfDays d.toDays := (weekdayOfDays_add_daysFrom first.toDays w).trans hw.symm
  rw [weekdayOfDays_eq_iff] at hstep
  have hk := Weekday.daysFrom_lt w first.weekday
  rw [le_def] at hle
  generalize Weekday.daysFrom w first.weekday = k at hstep hk ⊢
  exact ⟨((d.toDays - first.toDays - k) / 7).toNat, by omega⟩

theorem weeks_before_last {last d : Date} {w : Weekday} (hle : d ≤ last) (hw : d.weekday = w) :
    ∃ j : Nat, d.toDays = last.toDays - Weekday.daysFrom last.weekday w - 7 * j := by
  have hstep : weekdayOfDays (last.toDays - Weekday.daysFrom last.weekday w) =
      weekdayOfDays d.toDays := (weekdayOfDays_sub_daysFrom last.toDays w).trans hw.symm
  rw [weekdayOfDays_eq_iff] at hstep
  have hk := Weekday.daysFrom_lt last.weekday w
  rw [le_def] at hle
  generalize Weekday.daysFrom last.weekday w = k at hstep hk ⊢
  exact ⟨((last.toDays - k - d.toDays) / 7).toNat, by omega⟩

/-! ## Months -/

theorem ofYmd?_first {y : Int} {m : Nat} (hy0 : minYear ≤ y) (hy1 : y ≤ maxYear) (h1 : 1 ≤ m)
    (h2 : m ≤ 12) : ofYmd? y m 1 = some ⟨y, m, 1⟩ := by
  have hlen := monthLength_ge y h1 h2
  rw [ofYmd?, if_pos ⟨hy0, hy1, h1, h2, le_rfl, by omega⟩]

theorem ofYmd?_eq_some_iff {y : Int} {m day : Nat} {d : Date} :
    ofYmd? y m day = some d ↔ d.Valid ∧ d = ⟨y, m, day⟩ ∧ minYear ≤ y ∧ y ≤ maxYear := by
  constructor
  · intro h
    obtain ⟨hv, rfl⟩ := valid_of_ofYmd? h
    unfold ofYmd? at h
    split_ifs at h with hin
    exact ⟨hv, rfl, hin.1, hin.2.1⟩
  · rintro ⟨hv, rfl, hy0, hy1⟩
    exact ofYmd?_of_valid hv hy0 hy1

end Date

section Months

variable {y : Int} {m : Nat}

theorem daysInMonth_eq (hy0 : minYear ≤ y) (hy1 : y < maxYear) (h1 : 1 ≤ m) (h2 : m ≤ 12) :
    daysInMonth y m = some (monthLength y m) := by
  unfold daysInMonth
  rw [Date.ofYmd?_first hy0 hy1.le h1 h2]
  by_cases h12 : m = 12
  · subst h12
    simp [Date.ofYmd?_first (y := y + 1) (m := 1) (by omega) (by omega) le_rfl (by omega)]
  · simp [h12, Date.ofYmd?_first hy0 hy1.le (m := m + 1) (by omega) (by omega)]

theorem firstOfMonth_eq (hy0 : minYear ≤ y) (hy1 : y ≤ maxYear) (h1 : 1 ≤ m) (h2 : m ≤ 12) :
    firstOfMonth y m = some ⟨y, m, 1⟩ :=
  Date.ofYmd?_first hy0 hy1 h1 h2

theorem lastOfMonth_eq (hy0 : minYear ≤ y) (hy1 : y < maxYear) (h1 : 1 ≤ m) (h2 : m ≤ 12) :
    lastOfMonth y m = some ⟨y, m, monthLength y m⟩ := by
  have hlen := Date.monthLength_ge y h1 h2
  simp only [lastOfMonth, daysInMonth_eq hy0 hy1 h1 h2, Option.bind_eq_bind, Option.bind_some]
  rw [Date.ofYmd?, if_pos ⟨hy0, hy1.le, h1, h2, by omega, le_rfl⟩]

end Months

/-! ## Years and months as ranges of days -/

namespace Date

theorem toDays_january_mono {a b : Int} (h : a ≤ b) : toDays ⟨a, 1, 1⟩ ≤ toDays ⟨b, 1, 1⟩ := by
  have ha := monthStart_month a (m := 1) le_rfl (by omega)
  have hb := monthStart_month b (m := 1) le_rfl (by omega)
  rw [← ha, ← hb]
  exact monthStart_mono (by omega)

theorem toDays_le_month_end {d : Date} (hd : d.Valid) :
    d.toDays ≤ toDays ⟨d.year, d.month, monthLength d.year d.month⟩ := by
  obtain ⟨y, m, day⟩ := d
  obtain ⟨-, -, -, hd1⟩ := hd
  dsimp only at hd1 ⊢
  rw [toDays_day y m day, toDays_day y m (monthLength y m)]
  omega

theorem year_eq_iff {d : Date} (hd : d.Valid) {y : Int} :
    d.year = y ↔ toDays ⟨y, 1, 1⟩ ≤ d.toDays ∧ d.toDays ≤ toDays ⟨y, 12, 31⟩ := by
  have hhi := le_trans (toDays_le_month_end hd) (toDays_month_end_le hd.1 hd.2.1)
  obtain ⟨yd, m, day⟩ := d
  obtain ⟨h1, h2, h3, -⟩ := hd
  dsimp only at hhi h1 h2 h3 ⊢
  have hlo := toDays_january_le yd h1 h2 h3
  constructor
  · rintro rfl
    exact ⟨hlo, hhi⟩
  · rintro ⟨hlo', hhi'⟩
    -- a date of an earlier year ends before `y` starts, one of a later year starts after it ends
    by_contra hne
    rcases lt_or_gt_of_ne hne with hlt | hgt
    · have := toDays_january_mono (show yd + 1 ≤ y by omega)
      have := toDays_new_year yd
      omega
    · have := toDays_january_mono (show y + 1 ≤ yd by omega)
      have := toDays_new_year y
      omega

theorem minDays_add_le : minDays + 7 ≤ toDays ⟨minYear + 1, 1, 1⟩ := by decide

theorem add_le_maxDays : toDays ⟨maxYear - 1, 12, 31⟩ + 7 ≤ maxDays := by decide

end Date

/-- The first and last days of month `m` of year `y`. -/
def monthEnds (y : Int) (m : Nat) : Date × Date := (⟨y, m, 1⟩, ⟨y, m, monthLength y m⟩)

/-- The first and last days of year `y`. -/
def yearEnds (y : Int) : Date × Date := (⟨y, 1, 1⟩, ⟨y, 12, 31⟩)

/-- Day `d` is day `k` of its month, where a negative `k` counts back from the end of the month
(`-1` is its last day). -/
def Date.IsMonthDayOf (k : Int) (d : Date) : Prop :=
  0 < k ∧ (d.day : Int) = k ∨ k < 0 ∧ (d.day : Int) = monthLength d.year d.month + 1 + k

theorem selectMonthDay_eq_some_iff_of_length {y : Int} {m : Nat} (hy0 : minYear ≤ y)
    (hy1 : y ≤ maxYear) (h1 : 1 ≤ m) (h2 : m ≤ 12)
    (hdays : daysInMonth y m = some (monthLength y m)) {k : Int} {d : Date} :
    selectMonthDay y m k = some d ↔ d.Valid ∧ d.year = y ∧ d.month = m ∧ d.IsMonthDayOf k := by
  have hlen := Date.monthLength_ge y h1 h2
  simp only [selectMonthDay, hdays, Option.bind_eq_bind, Option.bind_some]
  -- the day of the month that `k` names, counted from its start
  have hmd : ∀ res : Int, (if k < 0 then (monthLength y m : Int) + 1 + k else k) = res →
      ∀ e : Date, e.year = y → e.month = m → 1 ≤ e.day →
        (e.IsMonthDayOf k ↔ (e.day : Int) = res) := by
    intro res hres e hy hm he
    simp only [Date.IsMonthDayOf, hy, hm]
    split_ifs at hres <;> omega
  generalize hres : (if k < 0 then (monthLength y m : Int) + 1 + k else k) = res
  constructor
  · intro h
    split_ifs at h with hout
    obtain ⟨hv, rfl⟩ := Date.valid_of_ofYmd? h
    exact ⟨hv, rfl, rfl, (hmd res hres _ rfl rfl hv.2.2.1).2 (by simp only; omega)⟩
  · rintro ⟨hv, rfl, rfl, hk⟩
    obtain ⟨-, -, hd0, hd1⟩ := hv
    have hday := (hmd res hres _ rfl rfl hd0).1 hk
    rw [if_neg (by omega), show res.toNat = d.day by omega]
    exact Date.ofYmd?_of_valid ⟨h1, h2, hd0, hd1⟩ hy0 hy1

/-- In a year before the calendar's last, `selectMonthDay` gives the date of a month that is
the given day of it, and nothing when the month has no such day. -/
theorem selectMonthDay_eq_some_iff {y : Int} {m : Nat} (hy0 : minYear ≤ y) (hy1 : y < maxYear)
    (h1 : 1 ≤ m) (h2 : m ≤ 12) {k : Int} {d : Date} :
    selectMonthDay y m k = some d ↔ d.Valid ∧ d.year = y ∧ d.month = m ∧ d.IsMonthDayOf k :=
  selectMonthDay_eq_some_iff_of_length hy0 hy1.le h1 h2 (daysInMonth_eq hy0 hy1 h1 h2)

/-! ## Weekdays of a range -/

namespace Date

/-- Day `d` is the `p`-th `w` of the days `first` to `last`, counted back from `last` when `p` is
negative: a `w` of the range in the `p`-th run of seven days from that end. -/
def IsNth (d : Date) (w : Weekday) (p : Int) (first last : Date) : Prop :=
  first ≤ d ∧ d ≤ last ∧ d.weekday = w ∧
    (0 < p ∧ (d.toDays - first.toDays) / 7 + 1 = p ∨ p < 0 ∧ (last.toDays - d.toDays) / 7 + 1 = -p)

theorem shift_of_inRange {d : Date} {n : Int} (h : minDays ≤ d.toDays + n)
    (h' : d.toDays + n ≤ maxDays) : d.shift n = .ok (ofDays (d.toDays + n)) := by
  simp [shift, addDays?, ofDays?, daysInRange, h, h']

theorem addDays?_bind_within {c first last : Date} {n : Int} (hlo : minDays ≤ first.toDays)
    (hhi : last.toDays ≤ maxDays) :
    (c.addDays? n).bind (fun e => if first ≤ e ∧ e ≤ last then some e else none) =
      if first.toDays ≤ c.toDays + n ∧ c.toDays + n ≤ last.toDays then some (ofDays (c.toDays + n))
      else none := by
  unfold addDays? ofDays?
  by_cases hin : first.toDays ≤ c.toDays + n ∧ c.toDays + n ≤ last.toDays
  · have hr : daysInRange (c.toDays + n) = true := by
      simp only [daysInRange, Bool.and_eq_true, decide_eq_true_eq]
      omega
    simp [hr, hin, le_def, toDays_ofDays]
  · rw [if_neg hin]
    split
    · simp only [Option.bind_some, le_def, toDays_ofDays]
      rw [if_neg hin]
    · rfl

end Date

section Range

variable {first last : Date} (w : Weekday)

/-- A range of days with a week of the calendar to spare on either side, as every month and year
strictly inside the calendar has. -/
structure Date.Inner (first last : Date) : Prop where
  start : Date.minDays + 7 ≤ first.toDays
  ordered : first ≤ last
  stop : last.toDays + 7 ≤ Date.maxDays

theorem Date.Inner.year {y : Int} (hy0 : minYear < y) (hy1 : y < maxYear) :
    Date.Inner ⟨y, 1, 1⟩ ⟨y, 12, 31⟩ := by
  have hstart := Date.toDays_january_mono (show minYear + 1 ≤ y by omega)
  have hend := Date.toDays_january_mono (show y + 1 ≤ maxYear - 1 + 1 by omega)
  have hnew := Date.toDays_new_year y
  have hnew' := Date.toDays_new_year (maxYear - 1)
  have hmin := Date.minDays_add_le
  have hmax := Date.add_le_maxDays
  have hdec := Date.toDays_january_le y (m := 12) (d := 1) (by omega) le_rfl le_rfl
  have hday := Date.toDays_day y 12 31
  exact ⟨by omega, (Date.le_def _ _).2 (by omega), by omega⟩

theorem Date.Inner.month {y : Int} {m : Nat} (hy0 : minYear < y) (hy1 : y < maxYear)
    (h1 : 1 ≤ m) (h2 : m ≤ 12) : Date.Inner ⟨y, m, 1⟩ ⟨y, m, monthLength y m⟩ := by
  obtain ⟨hstart, -, hend⟩ := Date.Inner.year hy0 hy1
  have hfirst := Date.toDays_january_le y h1 h2 le_rfl
  have hlast := Date.toDays_month_end_le (y := y) h1 h2
  have hlen := Date.monthLength_ge y h1 h2
  have hday := Date.toDays_day y m (monthLength y m)
  exact ⟨by omega, (Date.le_def _ _).2 (by omega), by omega⟩

/-- In an inner range, `selectPositionalWeekday` gives exactly the `p`-th `w` of the range,
and nothing when there is none (always for position zero). -/
theorem selectPositionalWeekday_spec (hr : Date.Inner first last) (p : Int) :
    ∃ o, selectPositionalWeekday first last w p = .ok o ∧
      ∀ d, o = some d ↔ d.Valid ∧ d.IsNth w p first last := by
  obtain ⟨hlo, hle, hhi⟩ := hr
  rw [Date.le_def] at hle
  have hk := Weekday.daysFrom_lt w first.weekday
  have hk' := Weekday.daysFrom_lt last.weekday w
  unfold selectPositionalWeekday
  dsimp only
  split_ifs with hpos hneg
  · -- from the first `w` of the range, whole weeks forward
    rw [Date.shift_of_inRange (by omega) (by omega)]
    refine ⟨_, rfl, fun d => ?_⟩
    rw [Date.addDays?_bind_within (by omega) (by omega), Date.toDays_ofDays]
    constructor
    · intro h
      split_ifs at h with hin
      cases h
      refine ⟨Date.ofDays_valid _, ?_, ?_, ?_, .inl ⟨hpos, ?_⟩⟩
      · rw [Date.le_def, Date.toDays_ofDays]; omega
      · rw [Date.le_def, Date.toDays_ofDays]; omega
      · rw [Date.weekday_ofDays, show first.toDays + Weekday.daysFrom w first.weekday +
          7 * (p - 1) = first.toDays + Weekday.daysFrom w (Date.weekdayOfDays first.toDays) +
          7 * (p - 1) from rfl, Date.weekdayOfDays_add_weeks, Date.weekdayOfDays_add_daysFrom]
      · rw [Date.toDays_ofDays]; omega
    · rintro ⟨hv, hfd, hdl, hw, hpos' | ⟨hneg', -⟩⟩
      · obtain ⟨j, hj⟩ := Date.weeks_after_first hfd hw
        rw [Date.le_def] at hfd hdl
        have hx : first.toDays + Weekday.daysFrom w first.weekday + 7 * (p - 1) = d.toDays := by
          omega
        rw [if_pos (by omega), hx, Date.ofDays_toDays hv]
      · omega
  · -- from the last `w` of the range, whole weeks back
    rw [Date.shift_of_inRange (by omega) (by omega)]
    refine ⟨_, rfl, fun d => ?_⟩
    rw [Date.addDays?_bind_within (by omega) (by omega), Date.toDays_ofDays]
    constructor
    · intro h
      split_ifs at h with hin
      cases h
      refine ⟨Date.ofDays_valid _, ?_, ?_, ?_, .inr ⟨hneg, ?_⟩⟩
      · rw [Date.le_def, Date.toDays_ofDays]; omega
      · rw [Date.le_def, Date.toDays_ofDays]; omega
      · rw [Date.weekday_ofDays, show last.toDays + -(Weekday.daysFrom last.weekday w : Int) +
          -(7 * (-p - 1)) = last.toDays - Weekday.daysFrom (Date.weekdayOfDays last.toDays) w +
          7 * (p + 1) by unfold Date.weekday; omega, Date.weekdayOfDays_add_weeks,
          Date.weekdayOfDays_sub_daysFrom]
      · rw [Date.toDays_ofDays]; omega
    · rintro ⟨hv, hfd, hdl, hw, ⟨hpos', -⟩ | ⟨-, hj'⟩⟩
      · omega
      · obtain ⟨j, hj⟩ := Date.weeks_before_last hdl hw
        rw [Date.le_def] at hfd hdl
        have hx : last.toDays + -(Weekday.daysFrom last.weekday w : Int) + -(7 * (-p - 1)) =
            d.toDays := by
          omega
        rw [if_pos (by omega), hx, Date.ofDays_toDays hv]
  · -- position zero selects nothing
    refine ⟨none, rfl, fun d => ⟨fun h => (by cases h), ?_⟩⟩
    rintro ⟨-, -, -, -, ⟨h, -⟩ | ⟨h, -⟩⟩ <;> omega

/-- In an inner range, `weekdaysBetween` gives every `w` of the range in ascending order. -/
theorem weekdaysBetween_spec (hr : Date.Inner first last) :
    ∃ ds, weekdaysBetween first last w = .ok ds ∧ ds.Pairwise (· < ·) ∧
      ∀ d, d ∈ ds ↔ d.Valid ∧ first ≤ d ∧ d ≤ last ∧ d.weekday = w := by
  obtain ⟨hlo, hle, hhi⟩ := hr
  rw [Date.le_def] at hle
  have hk := Weekday.daysFrom_lt w first.weekday
  unfold weekdaysBetween
  rw [Date.shift_of_inRange (by omega) (by omega)]
  simp only [Except.ok_bind, Date.lt_def, Date.toDays_ofDays]
  split_ifs with hnone hrange
  · -- no `w` of the range: the first `w` from `first` is already past `last`
    refine ⟨[], rfl, List.Pairwise.nil, fun d => ⟨fun h => (by cases h), ?_⟩⟩
    rintro ⟨-, hfd, hdl, hw⟩
    obtain ⟨j, hj⟩ := Date.weeks_after_first hfd hw
    rw [Date.le_def] at hdl
    omega
  · refine ⟨_, rfl, ?_, fun d => ?_⟩
    · refine List.pairwise_map.2 (List.pairwise_lt_range.imp fun {i j} hij => ?_)
      rw [Date.toDays_ofDays, Date.toDays_ofDays]
      omega
    · simp only [List.mem_map, List.mem_range]
      constructor
      · rintro ⟨j, hj, rfl⟩
        refine ⟨Date.ofDays_valid _, ?_, ?_, ?_⟩
        · rw [Date.le_def, Date.toDays_ofDays]; omega
        · rw [Date.le_def, Date.toDays_ofDays]; omega
        · rw [Date.weekday_ofDays, Date.weekdayOfDays_add_weeks]
          exact Date.weekdayOfDays_add_daysFrom _ _
      · rintro ⟨hv, hfd, hdl, hw⟩
        obtain ⟨j, hj⟩ := Date.weeks_after_first hfd hw
        rw [Date.le_def] at hdl
        refine ⟨j, by omega, ?_⟩
        rw [← hj, Date.ofDays_toDays hv]
  · -- the step a week past the last `w` stays in the calendar
    exfalso
    apply hrange
    simp only [Date.daysInRange, Bool.and_eq_true, decide_eq_true_eq]
    omega

end Range

end Cadence
