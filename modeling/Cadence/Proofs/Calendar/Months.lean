import Cadence.Proofs.Calendar.Selection

/-!
# Stepping months, and the length and days of a month

A year and a month are stepped on one integer, the month index `12 * year + (month - 1)`.
`advanceMonth` lands on the year and month of the index reached, read by floor division and its
remainder, exactly when that year is a signed 32-bit value. The signed 64-bit sum it computes
the index in overflows only where that year is already far out of range
(`advanceMonth_eq_ite`). Where a step lands depends on the index reached alone, so two steps are
one step by their sum (`advanceMonth_exact`).

The length of a month is the distance on the day count from its first day to the first day of
the month after: its Gregorian length. `daysInMonth` finds it for every month of the calendar
but the last, December of the last year, whose successor lies past the calendar. The last day
of a month and the day counted from either end of it follow the length (`month_days_exact`).
-/
namespace Cadence

/-! ## Stepping by months -/

/-- A step by months is floor division of the month index reached, its remainder giving the
month, when the year fits a signed 32-bit value. -/
theorem advanceMonth_eq_ite (y : Int) (m : Nat) (k : Int) :
    advanceMonth y m k =
      if yearWordMin ≤ (12 * y + ((m : Int) - 1) + k) / 12 ∧
          (12 * y + ((m : Int) - 1) + k) / 12 ≤ yearWordMax then
        some ((12 * y + ((m : Int) - 1) + k) / 12, ((12 * y + ((m : Int) - 1) + k) % 12).toNat + 1)
      else none := by
  unfold advanceMonth
  generalize 12 * y + ((m : Int) - 1) + k = T
  dsimp only
  by_cases h64 : monthIndexMin ≤ T ∧ T ≤ monthIndexMax
  · rw [if_pos h64]
  · -- an index past the signed 64-bit range has a year far past the signed 32-bit one
    have h32 : ¬ (yearWordMin ≤ T / 12 ∧ T / 12 ≤ yearWordMax) := by
      unfold monthIndexMin monthIndexMax yearWordMin yearWordMax at *
      omega
    rw [if_neg h64, if_neg h32]

theorem advanceMonth_congr {y y' : Int} {m m' : Nat} {k k' : Int}
    (h : 12 * y + ((m : Int) - 1) + k = 12 * y' + ((m' : Int) - 1) + k') :
    advanceMonth y m k = advanceMonth y' m' k' := by
  rw [advanceMonth_eq_ite, advanceMonth_eq_ite, h]

/-- Month arithmetic is exact: a step by `k` months lands on the year and month of the index
`12 * y + (m - 1) + k` when that year is a signed 32-bit value, and steps add. -/
theorem advanceMonth_exact :
    (∀ (y : Int) (m : Nat) (k y' : Int) (m' : Nat), advanceMonth y m k = some (y', m') ↔
      yearWordMin ≤ (12 * y + ((m : Int) - 1) + k) / 12 ∧
        (12 * y + ((m : Int) - 1) + k) / 12 ≤ yearWordMax ∧
        y' = (12 * y + ((m : Int) - 1) + k) / 12 ∧
        (m' : Int) = (12 * y + ((m : Int) - 1) + k) % 12 + 1) ∧
    ∀ (y : Int) (m : Nat) (a b y₁ : Int) (m₁ : Nat), advanceMonth y m a = some (y₁, m₁) →
      advanceMonth y₁ m₁ b = advanceMonth y m (a + b) := by
  refine ⟨fun y m k y' m' => ?_, fun y m a b y₁ m₁ h => ?_⟩
  · rw [advanceMonth_eq_ite]
    generalize 12 * y + ((m : Int) - 1) + k = T
    split_ifs with hfit
    · simp only [Option.some.injEq, Prod.mk.injEq]
      omega
    · simp only [false_iff]
      omega
  · -- the first step lands on the index it reached, from which the second counts on
    obtain ⟨rfl, rfl⟩ := advanceMonth_eq_some h
    apply advanceMonth_congr
    omega

/-- Three months on from November 2024 is February 2025, and fourteen back from there is the
step of eleven back from November 2024. -/
theorem advanceMonth_exact_across_years :
    advanceMonth 2024 11 3 = some (2025, 2) ∧
      advanceMonth 2025 2 (-14) = advanceMonth 2024 11 (3 + -14) :=
  ⟨(advanceMonth_exact.1 2024 11 3 2025 2).2 (by decide),
    advanceMonth_exact.2 2024 11 3 (-14) 2025 2 (by decide)⟩

/-! ## Lengths of months -/

section Lengths

variable {y : Int} {m : Nat}

theorem monthLength_eq_toDays_sub (y : Int) (h1 : 1 ≤ m) (h2 : m ≤ 12) :
    (monthLength y m : Int) =
      (if m = 12 then Date.toDays ⟨y + 1, 1, 1⟩ else Date.toDays ⟨y, m + 1, 1⟩) -
        Date.toDays ⟨y, m, 1⟩ := by
  split_ifs with h12
  · subst h12
    have hnew := Date.toDays_new_year y
    have hdec := Date.toDays_day y 12 31
    simp only [monthLength]
    omega
  · have hnext := Date.toDays_succ_month y h1 (by omega : m ≤ 11)
    omega

theorem monthLength_february (y : Int) :
    monthLength y 2 = 29 ↔ 4 ∣ y ∧ (¬ 100 ∣ y ∨ 400 ∣ y) := by
  simp only [monthLength, isLeapYear, Int.dvd_iff_emod_eq_zero]
  split_ifs with hleap <;> simp_all

theorem daysInMonth_eq_ite (hy0 : minYear ≤ y) (hy1 : y ≤ maxYear) (h1 : 1 ≤ m) (h2 : m ≤ 12) :
    daysInMonth y m = if y = maxYear ∧ m = 12 then none else some (monthLength y m) := by
  split_ifs with hlast
  · obtain ⟨rfl, rfl⟩ := hlast
    decide
  · by_cases hy : y < maxYear
    · exact daysInMonth_eq hy0 hy h1 h2
    · -- a month of the last year before December
      have hm : m ≤ 11 := by omega
      unfold daysInMonth
      simp [Date.ofYmd?_first hy0 hy1 h1 h2, show m ≠ 12 by omega,
        Date.ofYmd?_first hy0 hy1 (m := m + 1) (by omega) (by omega)]

theorem lastOfMonth_eq_map (hy0 : minYear ≤ y) (hy1 : y ≤ maxYear) (h1 : 1 ≤ m) (h2 : m ≤ 12) :
    lastOfMonth y m = (daysInMonth y m).map fun len => ⟨y, m, len⟩ := by
  have hlen := Date.monthLength_ge y h1 h2
  rw [lastOfMonth, daysInMonth_eq_ite hy0 hy1 h1 h2]
  split_ifs
  · rfl
  · simp only [Option.bind_eq_bind, Option.bind_some, Option.map_some]
    rw [Date.ofYmd?, if_pos ⟨hy0, hy1, h1, h2, by omega, le_rfl⟩]

/-- Months of the calendar have their Gregorian lengths and `lastOfMonth` and `selectMonthDay`
give their days, except December of the calendar's last year, whose length is not found. -/
theorem month_days_exact (hy0 : minYear ≤ y) (hy1 : y ≤ maxYear) (h1 : 1 ≤ m) (h2 : m ≤ 12) :
    daysInMonth y m = (if y = maxYear ∧ m = 12 then none else some (monthLength y m)) ∧
      (monthLength y m : Int) =
        (if m = 12 then Date.toDays ⟨y + 1, 1, 1⟩ else Date.toDays ⟨y, m + 1, 1⟩) -
          Date.toDays ⟨y, m, 1⟩ ∧
      (monthLength y 2 = 29 ↔ 4 ∣ y ∧ (¬ 100 ∣ y ∨ 400 ∣ y)) ∧
      lastOfMonth y m = (daysInMonth y m).map (fun len => ⟨y, m, len⟩) ∧
      ∀ (k : Int) (d : Date), selectMonthDay y m k = some d ↔
        ¬ (y = maxYear ∧ m = 12) ∧ d.Valid ∧ d.year = y ∧ d.month = m ∧ d.IsMonthDayOf k := by
  have hdays := daysInMonth_eq_ite hy0 hy1 h1 h2
  refine ⟨hdays, monthLength_eq_toDays_sub y h1 h2, monthLength_february y,
    lastOfMonth_eq_map hy0 hy1 h1 h2, fun k d => ?_⟩
  by_cases hlast : y = maxYear ∧ m = 12
  · -- the last month of the calendar has no length, so no day of it is selected
    rw [if_pos hlast] at hdays
    have hnone : selectMonthDay y m k = none := by simp [selectMonthDay, hdays]
    rw [hnone]
    simp [hlast]
  · rw [if_neg hlast] at hdays
    rw [selectMonthDay_eq_some_iff_of_length hy0 hy1 h1 h2 hdays]
    simp [hlast]

/-- February 2024 has 29 days, the last of them its last day. -/
theorem month_days_exact_leap_february :
    daysInMonth 2024 2 = some 29 ∧ lastOfMonth 2024 2 = some ⟨2024, 2, 29⟩ ∧
      (monthLength 2024 2 = 29 ↔ 4 ∣ (2024 : Int) ∧ (¬ 100 ∣ (2024 : Int) ∨ 400 ∣ (2024 : Int))) :=
  have h := month_days_exact (y := 2024) (m := 2) (by decide) (by decide) (by decide) (by decide)
  ⟨h.1.trans (by decide), h.2.2.2.1.trans (by rw [h.1]; decide), h.2.2.1⟩

/-- December of the calendar's last year lies in the calendar, but its length is not found, so
neither its last day nor a day counted from its end is given. -/
theorem daysInMonth_calendar_end :
    Date.ofYmd? maxYear 12 1 = some ⟨maxYear, 12, 1⟩ ∧
      Date.ofYmd? maxYear 12 31 = some ⟨maxYear, 12, 31⟩ ∧
      daysInMonth maxYear 12 = none ∧ lastOfMonth maxYear 12 = none ∧
      selectMonthDay maxYear 12 (-1) = none := by
  decide

end Lengths

end Cadence
