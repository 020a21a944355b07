import Cadence.Calendar.Moment
import Mathlib.Tactic.IntervalCases

/-!
# Day counts and civil dates

`Date.toDays` and `Date.ofDays` follow the era algorithm: a day count is cut into eras of 400
years (146097 days), an era into years that begin on March 1, and a year into months whose
first days lie `(153 * mp + 2) / 5` days in, `mp` counting months from March. The results here
are that `ofDays` inverts `toDays` on every day count and yields only dates that exist, so a
wall time is its date and its clock read back.
-/
namespace Cadence

namespace Date

/-- A date that exists: a month from 1 to 12 and a day within that month. -/
def Valid (d : Date) : Prop :=
  1 ≤ d.month ∧ d.month ≤ 12 ∧ 1 ≤ d.day ∧ d.day ≤ monthLength d.year d.month

theorem monthLength_le (y : Int) (m : Nat) : monthLength y m ≤ 31 := by
  unfold monthLength
  split <;> (try split) <;> omega

/-- The day of its era on which year `y` of the era begins, years counted from March. -/
def eraYearStart (y : Int) : Int := 365 * y + y / 4 - y / 100

/-- The year of its era that holds day `doe` of the era, as `ofDays` computes it. -/
def yearOfEra (doe : Int) : Int := (doe - doe / 1460 + doe / 36524 - doe / 146096) / 365

/-- Year `y` of an era, counted from March, ends with a leap day. -/
def EndsLeap (y : Int) : Prop := (y + 1) % 4 = 0 ∧ ((y + 1) % 100 ≠ 0 ∨ (y + 1) % 400 = 0)

theorem yearOfEra_eq {c k y s : Int} (hc0 : 0 ≤ c) (hc : c ≤ 3) (hk0 : 0 ≤ k) (hk : k ≤ 24)
    (hy0 : 0 ≤ y) (hy : y ≤ 3) (hs0 : 0 ≤ s) (hs : s < 365 ∨ y = 3 ∧ s = 365)
    (hend : k = 24 → 365 * y + s ≤ 1459) :
    yearOfEra (36524 * c + 1461 * k + 365 * y + s) = 100 * c + 4 * k + y := by
  unfold yearOfEra
  generalize hD : 36524 * c + 1461 * k + 365 * y + s = D
  -- omega cannot find the three quotients at once; each alone is a bounded search
  have hf : D / 36524 = c := by omega
  have hg : D / 146096 = 0 := by omega
  have he0 : 25 * c + k ≤ D / 1460 := by omega
  have he1 : D / 1460 ≤ 25 * c + k + 1 := by omega
  have he2 : D / 1460 = 25 * c + k + 1 → y = 3 ∧ 1 ≤ s := by omega
  have he3 : y = 3 ∧ s = 365 → D / 1460 = 25 * c + k + 1 := by omega
  rw [hf, hg]
  omega

theorem yearOfEra_spec {doe : Int} (h0 : 0 ≤ doe) (h1 : doe < 146097) :
    0 ≤ yearOfEra doe ∧ yearOfEra doe ≤ 399 ∧ eraYearStart (yearOfEra doe) ≤ doe ∧
      doe ≤ eraYearStart (yearOfEra doe) + 365 ∧
      (doe = eraYearStart (yearOfEra doe) + 365 → EndsLeap (yearOfEra doe)) := by
  by_cases hlast : doe = 146096
  · -- the era's own leap day, which closes year 399
    subst hlast
    have h : yearOfEra 146096 = 399 := by unfold yearOfEra; norm_num
    simp only [h, eraYearStart, EndsLeap]
    norm_num
  obtain ⟨c, k, y, s, rfl, hc0, hc, hk0, hk, hy0, hy, hs0, hs, hend⟩ :
      ∃ c k y s, doe = 36524 * c + 1461 * k + 365 * y + s ∧ 0 ≤ c ∧ c ≤ 3 ∧ 0 ≤ k ∧ k ≤ 24 ∧
        0 ≤ y ∧ y ≤ 3 ∧ 0 ≤ s ∧ (s < 365 ∨ y = 3 ∧ s = 365) ∧ (k = 24 → 365 * y + s ≤ 1459) :=
    ⟨doe / 36524, doe % 36524 / 1461, min (doe % 36524 % 1461 / 365) 3,
      doe % 36524 % 1461 - 365 * min (doe % 36524 % 1461 / 365) 3, by omega, by omega, by omega,
      by omega, by omega, by omega, by omega, by omega, by omega, by omega⟩
  rw [yearOfEra_eq hc0 hc hk0 hk hy0 hy hs0 hs hend]
  have hstart : eraYearStart (100 * c + 4 * k + y) = 36524 * c + 1461 * k + 365 * y := by
    unfold eraYearStart
    omega
  rw [hstart]
  refine ⟨by omega, by omega, by omega, by omega, fun h => ?_⟩
  unfold EndsLeap
  omega

/-- The date `doy` days into year `y` of era `era`, years counted from March. -/
def ofEraYear (era y doy : Int) : Date :=
  let mp := (5 * doy + 2) / 153
  let m : Int := if mp < 10 then mp + 3 else mp - 9
  ⟨y + era * 400 + (if m ≤ 2 then 1 else 0), m.toNat, (doy - (153 * mp + 2) / 5 + 1).toNat⟩

theorem ofDays_eq_ofEraYear (n : Int) :
    ofDays n = ofEraYear ((n + 719468) / 146097)
      (yearOfEra (n + 719468 - (n + 719468) / 146097 * 146097))
      (n + 719468 - (n + 719468) / 146097 * 146097 -
        eraYearStart (yearOfEra (n + 719468 - (n + 719468) / 146097 * 146097))) := rfl

theorem toDays_ofEraYear {era y doy : Int} (hy0 : 0 ≤ y) (hy1 : y ≤ 399) (hd0 : 0 ≤ doy)
    (hd1 : doy ≤ 365) :
    (ofEraYear era y doy).toDays = era * 146097 + eraYearStart y + doy - 719468 := by
  simp only [ofEraYear, toDays, eraYearStart]
  have hmp0 : 0 ≤ (5 * doy + 2) / 153 := by omega
  have hmp1 : (5 * doy + 2) / 153 ≤ 11 := by omega
  have hd : (153 * ((5 * doy + 2) / 153) + 2) / 5 ≤ doy := by omega
  split_ifs <;> omega

theorem ofEraYear_valid {era y doy : Int} (hd0 : 0 ≤ doy) (hd1 : doy ≤ 365)
    (hleap : doy = 365 → EndsLeap y) : (ofEraYear era y doy).Valid := by
  obtain ⟨mp, hmp⟩ : ∃ mp, (5 * doy + 2) / 153 = mp := ⟨_, rfl⟩
  have hmp0 : 0 ≤ mp := by omega
  have hmp1 : mp ≤ 11 := by omega
  have hlo : (153 * mp + 2) / 5 ≤ doy := by omega
  have hhi : mp < 11 → doy < (153 * (mp + 1) + 2) / 5 := by omega
  simp only [ofEraYear, Valid, hmp]
  unfold EndsLeap at hleap
  -- one case per month; February needs the leap day of the year it falls in
  interval_cases mp <;> simp [monthLength, isLeapYear] <;> omega

theorem toDays_ofDays (n : Int) : (ofDays n).toDays = n := by
  have h0 : 0 ≤ n + 719468 - (n + 719468) / 146097 * 146097 := by omega
  have h1 : n + 719468 - (n + 719468) / 146097 * 146097 < 146097 := by omega
  obtain ⟨hy0, hy1, hs, he, -⟩ := yearOfEra_spec h0 h1
  rw [ofDays_eq_ofEraYear, toDays_ofEraYear hy0 hy1 (by omega) (by omega)]
  omega

theorem ofDays_valid (n : Int) : (ofDays n).Valid := by
  have h0 : 0 ≤ n + 719468 - (n + 719468) / 146097 * 146097 := by omega
  have h1 : n + 719468 - (n + 719468) / 146097 * 146097 < 146097 := by omega
  obtain ⟨-, -, hs, he, hleap⟩ := yearOfEra_spec h0 h1
  rw [ofDays_eq_ofEraYear]
  exact ofEraYear_valid (by omega) (by omega) fun h => hleap (by omega)

theorem ofYmd?_of_valid {d : Date} (hd : d.Valid) (hy0 : minYear ≤ d.year) (hy1 : d.year ≤ maxYear) :
    ofYmd? d.year d.month d.day = some d := by
  obtain ⟨hm0, hm1, hd0, hd1⟩ := hd
  simp [ofYmd?, hy0, hy1, hm0, hm1, hd0, hd1]

theorem valid_of_ofYmd? {y : Int} {m day : Nat} {d : Date} (h : ofYmd? y m day = some d) :
    d.Valid ∧ d = ⟨y, m, day⟩ := by
  unfold ofYmd? at h
  split at h
  · rename_i hv
    obtain ⟨-, -, hm0, hm1, hd0, hd1⟩ := hv
    cases h
    exact ⟨⟨hm0, hm1, hd0, hd1⟩, rfl⟩
  · cases h

theorem yearOfEra_eraYearStart_add {y doy : Int} (hy0 : 0 ≤ y) (hy1 : y ≤ 399) (hd0 : 0 ≤ doy)
    (hd1 : doy < 365 ∨ doy = 365 ∧ EndsLeap y) : yearOfEra (eraYearStart y + doy) = y := by
  by_cases hlast : y = 399 ∧ doy = 365
  · obtain ⟨rfl, rfl⟩ := hlast
    unfold yearOfEra eraYearStart
    norm_num
  obtain ⟨c, k, q, rfl, hc0, hc, hk0, hk, hq0, hq⟩ :
      ∃ c k q, y = 100 * c + 4 * k + q ∧ 0 ≤ c ∧ c ≤ 3 ∧ 0 ≤ k ∧ k ≤ 24 ∧ 0 ≤ q ∧ q ≤ 3 :=
    ⟨y / 100, y % 100 / 4, y % 4, by omega, by omega, by omega, by omega, by omega, by omega,
      by omega⟩
  have hstart : eraYearStart (100 * c + 4 * k + q) = 36524 * c + 1461 * k + 365 * q := by
    unfold eraYearStart
    omega
  unfold EndsLeap at hd1
  rw [hstart]
  exact yearOfEra_eq hc0 hc hk0 hk hq0 hq hd0 (by omega) (by omega)

theorem ofDays_eq_of_era {n era doe : Int} (h : n + 719468 = era * 146097 + doe) (h0 : 0 ≤ doe)
    (h1 : doe < 146097) :
    ofDays n = ofEraYear era (yearOfEra doe) (doe - eraYearStart (yearOfEra doe)) := by
  have hq : (n + 719468) / 146097 = era := by omega
  have hr : n + 719468 - (n + 719468) / 146097 * 146097 = doe := by omega
  rw [ofDays_eq_ofEraYear, hr, hq]

theorem marchDay_spec {y : Int} {m day : Nat} (hm0 : 1 ≤ m) (hm1 : m ≤ 12) (hd0 : 1 ≤ day)
    (hd1 : day ≤ monthLength y m) :
    0 ≤ (153 * (if m > 2 then (m : Int) - 3 else (m : Int) + 9) + 2) / 5 + day - 1 ∧
    ((153 * (if m > 2 then (m : Int) - 3 else (m : Int) + 9) + 2) / 5 + day - 1 < 365 ∨
      (153 * (if m > 2 then (m : Int) - 3 else (m : Int) + 9) + 2) / 5 + day - 1 = 365 ∧ m = 2 ∧
        isLeapYear y) ∧
    (5 * ((153 * (if m > 2 then (m : Int) - 3 else (m : Int) + 9) + 2) / 5 + day - 1) + 2) / 153 =
      (if m > 2 then (m : Int) - 3 else (m : Int) + 9) := by
  interval_cases m <;> simp [monthLength] at hd1 ⊢ <;> try omega
  split at hd1 <;> simp_all <;> omega

theorem ofDays_toDays {d : Date} (hd : d.Valid) : ofDays d.toDays = d := by
  obtain ⟨y, m, day⟩ := d
  obtain ⟨hm0, hm1, hd0, hd1⟩ := hd
  obtain ⟨hdoy0, hdoy1, hmp⟩ := marchDay_spec hm0 hm1 hd0 hd1
  simp only at hm0 hm1 hd0 hd1 hdoy0 hdoy1 hmp
  generalize hmp' : (if m > 2 then (m : Int) - 3 else (m : Int) + 9) = mp at hdoy0 hdoy1 hmp
  -- the year counted from March, and its place in its era
  generalize hy' : (if m ≤ 2 then y - 1 else y) = y'
  have hyoe0 : 0 ≤ y' - y' / 400 * 400 := by omega
  have hyoe1 : y' - y' / 400 * 400 ≤ 399 := by omega
  have hleap : (153 * mp + 2) / 5 + day - 1 < 365 ∨
      (153 * mp + 2) / 5 + day - 1 = 365 ∧ EndsLeap (y' - y' / 400 * 400) := by
    rcases hdoy1 with h | ⟨h, rfl, hl⟩
    · exact .inl h
    · refine .inr ⟨h, ?_⟩
      simp only [isLeapYear, Bool.and_eq_true, beq_iff_eq, Bool.or_eq_true, bne_iff_ne] at hl
      simp only [EndsLeap]
      simp at hy'
      omega
  have hS := yearOfEra_eraYearStart_add hyoe0 hyoe1 hdoy0 hleap
  have hdays : toDays ⟨y, m, day⟩ + 719468 = y' / 400 * 146097 +
      (eraYearStart (y' - y' / 400 * 400) + ((153 * mp + 2) / 5 + day - 1)) := by
    simp only [toDays, eraYearStart, hy', hmp']
    omega
  have hdoy : eraYearStart (y' - y' / 400 * 400) + ((153 * mp + 2) / 5 + day - 1) -
      eraYearStart (y' - y' / 400 * 400) = (153 * mp + 2) / 5 + day - 1 := by omega
  rw [ofDays_eq_of_era hdays (by unfold eraYearStart; omega) (by unfold eraYearStart; omega), hS,
    hdoy]
  simp only [ofEraYear, hmp, Date.mk.injEq]
  split_ifs at hmp' hy' <;> subst hmp' hy' <;> refine ⟨?_, ?_, ?_⟩ <;> (try split_ifs) <;> omega

end Date

namespace WallTime

theorem toDays_date (t : WallTime) : t.date.toDays = t.nanos / nanosPerDay :=
  Date.toDays_ofDays _

theorem date_ofDate {d : Date} (hd : d.Valid) {h m s : Nat} (hsod : h * 3600 + m * 60 + s < 86400) :
    (WallTime.ofDate d h m s).date = d := by
  have hdays : (d.toDays * secondsPerDay + h * 3600 + m * 60 + s) * nanosPerSecond / nanosPerDay =
      d.toDays := by
    simp only [nanosPerDay, secondsPerDay, nanosPerSecond]
    omega
  simp only [date, ofDate, hdays, Date.ofDays_toDays hd]

theorem ofDate_clock {t : WallTime} (h : t.nanos % nanosPerSecond = 0) :
    WallTime.ofDate t.date t.hour t.minute t.second = t := by
  simp only [ofDate, hour, minute, second, secondOfDay, toDays_date]
  have hsod : 0 ≤ t.nanos % nanosPerDay / nanosPerSecond := by
    simp only [nanosPerDay, secondsPerDay, nanosPerSecond]; omega
  congr 1
  simp only [nanosPerDay, secondsPerDay, nanosPerSecond] at *
  omega

end WallTime

end Cadence
