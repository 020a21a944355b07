import Cadence.Proofs.Calendar.Selection

/-!
# The weekdays of a range of days

The days of a range that fall on a weekday `w`, in order, are the range's days filtered by their
weekday (`Date.weekdaysIn`). `weekdaysBetween` gives exactly that list, and
`selectPositionalWeekday` its `p`-th element, counted from the start for a positive `p` and from
the end for a negative one, and nothing for position zero or a position past the list's end
(`weekday_positions_exact`). The range needs a week of the calendar to spare on either side.

Both functions step by whole weeks from the first `w` of the range, or back from its last one;
the `w`s of a range are the day counts from the first `w` on with difference seven
(`Date.weekdaysIn_eq_map`), and the last of them lies at the same place counted back from
`last`.
-/
namespace Cadence

namespace Date

/-- The days from `first` to `last`, in order. -/
def days (first last : Date) : List Date :=
  (List.range (last.toDays - first.toDays + 1).toNat).map fun (i : Nat) => ofDays (first.toDays + i)

/-- The days from `first` to `last` that fall on weekday `w`, in order. -/
def weekdaysIn (first last : Date) (w : Weekday) : List Date :=
  (days first last).filter (·.weekday = w)

/-- Dates ordered by their day counts: no date comes before itself. -/
instance : Std.Irrefl (α := Date) (· < ·) := ⟨fun a => Int.lt_irrefl a.toDays⟩

/-- Two dates never come each before the other. -/
instance : Std.Antisymm (α := Date) (· < ·) :=
  ⟨fun _ _ hab hba => absurd (Int.lt_trans hab hba) (Int.lt_irrefl _)⟩

theorem mem_days {first last d : Date} :
    d ∈ days first last ↔ d.Valid ∧ first ≤ d ∧ d ≤ last := by
  simp only [days, List.mem_map, List.mem_range]
  constructor
  · rintro ⟨i, hi, rfl⟩
    refine ⟨ofDays_valid _, ?_, ?_⟩ <;> rw [le_def, toDays_ofDays] <;> omega
  · rintro ⟨hv, hfd, hdl⟩
    rw [le_def] at hfd hdl
    refine ⟨(d.toDays - first.toDays).toNat, by omega, ?_⟩
    rw [show first.toDays + ((d.toDays - first.toDays).toNat : Int) = d.toDays by omega,
      ofDays_toDays hv]

theorem days_pairwise (first last : Date) : (days first last).Pairwise (· < ·) := by
  refine List.pairwise_map.2 (List.pairwise_lt_range.imp fun {i j} hij => ?_)
  rw [lt_def, toDays_ofDays, toDays_ofDays]
  omega

theorem mem_weekdaysIn {first last d : Date} {w : Weekday} :
    d ∈ weekdaysIn first last w ↔ d.Valid ∧ first ≤ d ∧ d ≤ last ∧ d.weekday = w := by
  simp [weekdaysIn, mem_days, and_assoc]

theorem first_last_weekday_mod (a b : Date) (w : Weekday) :
    (a.toDays + Weekday.daysFrom w a.weekday) % 7 = (b.toDays - Weekday.daysFrom b.weekday w) % 7 :=
  weekdayOfDays_eq_iff.1 ((weekdayOfDays_add_daysFrom a.toDays w).trans
    (weekdayOfDays_sub_daysFrom b.toDays w).symm)

end Date

section Range

variable {first last : Date} (w : Weekday)

theorem weekdaysBetween_eq_map (hr : Date.Inner first last) :
    weekdaysBetween first last w =
      .ok ((List.range ((last.toDays - (first.toDays + Weekday.daysFrom w first.weekday)) / 7 +
        1).toNat).map fun (k : Nat) =>
          Date.ofDays (first.toDays + Weekday.daysFrom w first.weekday + 7 * (k : Int))) := by
  obtain ⟨hlo, hle, hhi⟩ := hr
  rw [Date.le_def] at hle
  have hk := Weekday.daysFrom_lt w first.weekday
  unfold weekdaysBetween
  rw [Date.shift_of_inRange (by omega) (by omega)]
  simp only [Except.ok_bind, Date.lt_def, Date.toDays_ofDays]
  split_ifs with hnone hrange
  · -- the first `w` from `first` is already past `last`: no week is counted
    rw [show ((last.toDays - (first.toDays + Weekday.daysFrom w first.weekday)) / 7 + 1).toNat = 0
      by omega]
    rfl
  · rw [show ((last.toDays - (first.toDays + Weekday.daysFrom w first.weekday)) / 7 + 1).toNat =
      ((last.toDays - (first.toDays + Weekday.daysFrom w first.weekday)) / 7).toNat + 1 by omega]
    rfl
  · -- the step a week past the last `w` stays in the calendar
    exfalso
    apply hrange
    simp only [Date.daysInRange, Bool.and_eq_true, decide_eq_true_eq]
    omega

/-- The `w`s of an inner range are the first `w` from `first` and the days whole weeks after it,
up to `last`. -/
theorem Date.weekdaysIn_eq_map (hr : Date.Inner first last) :
    Date.weekdaysIn first last w =
      (List.range ((last.toDays - (first.toDays + Weekday.daysFrom w first.weekday)) / 7 +
        1).toNat).map fun (k : Nat) =>
          Date.ofDays (first.toDays + Weekday.daysFrom w first.weekday + 7 * (k : Int)) := by
  -- two ascending lists of the same dates are one list
  obtain ⟨ds, hds, hsorted, hmem⟩ := weekdaysBetween_spec w hr
  rw [weekdaysBetween_eq_map w hr] at hds
  cases hds
  refine List.Pairwise.eq_of_mem_iff ((Date.days_pairwise first last).filter _) hsorted
    fun d => ?_
  rw [Date.mem_weekdaysIn, hmem]

theorem weekdaysBetween_eq_weekdaysIn (hr : Date.Inner first last) :
    weekdaysBetween first last w = .ok (Date.weekdaysIn first last w) := by
  rw [weekdaysBetween_eq_map w hr, Date.weekdaysIn_eq_map w hr]

theorem selectPositionalWeekday_eq_getElem? (hr : Date.Inner first last) (p : Int) :
    selectPositionalWeekday first last w p =
      .ok (if 0 < p then (Date.weekdaysIn first last w)[(p - 1).toNat]?
        else if p < 0 then (Date.weekdaysIn first last w).reverse[(-p - 1).toNat]?
        else none) := by
  have hmod := Date.first_last_weekday_mod first last w
  rw [Date.weekdaysIn_eq_map w hr]
  obtain ⟨hlo, hle, hhi⟩ := hr
  rw [Date.le_def] at hle
  have hk := Weekday.daysFrom_lt w first.weekday
  have hk' := Weekday.daysFrom_lt last.weekday w
  generalize hfm : first.toDays + Weekday.daysFrom w first.weekday = fm at hmod
  generalize hlm : last.toDays - Weekday.daysFrom last.weekday w = lm at hmod
  -- the number of `w`s of the range
  generalize hn : ((last.toDays - fm) / 7 + 1).toNat = n
  unfold selectPositionalWeekday
  dsimp only
  split_ifs with hpos hneg
  · -- from the first `w` of the range, whole weeks forward
    rw [Date.shift_of_inRange (by omega) (by omega), Except.ok_bind, Except.pure_eq,
      Date.addDays?_bind_within (by omega) (by omega), Date.toDays_ofDays, List.getElem?_map]
    by_cases hin : (p - 1).toNat < n
    · rw [List.getElem?_range hin, if_pos (by omega), Option.map_some]
      exact congrArg (fun n => Except.ok (some (Date.ofDays n))) (by omega)
    · rw [List.getElem?_eq_none (by simpa using hin), if_neg (by omega)]
      rfl
  · -- from the last `w` of the range, whole weeks back
    rw [Date.shift_of_inRange (by omega) (by omega), Except.ok_bind, Except.pure_eq,
      Date.addDays?_bind_within (by omega) (by omega), Date.toDays_ofDays]
    by_cases hin : (-p - 1).toNat < n
    · have hlen : (-p - 1).toNat < ((List.range n).map fun k : Nat =>
          Date.ofDays (fm + 7 * (k : Int))).length := by simpa using hin
      rw [List.getElem?_reverse hlen, List.getElem?_map, List.length_map, List.length_range,
        List.getElem?_range (by omega), if_pos (by omega), Option.map_some]
      -- the last `w` of the range is the `n`-th from the first
      exact congrArg (fun n => Except.ok (some (Date.ofDays n))) (by omega)
    · rw [List.getElem?_eq_none (by simpa using hin), if_neg (by omega)]
  · rfl

/-- In a range with a week to spare on either side, `weekdaysBetween` gives its `w`s in order and
`selectPositionalWeekday` the `p`-th of them, from the end when `p` is negative. -/
theorem weekday_positions_exact (hr : Date.Inner first last) (p : Int) :
    weekdaysBetween first last w = .ok (Date.weekdaysIn first last w) ∧
      selectPositionalWeekday first last w p =
        .ok (if 0 < p then (Date.weekdaysIn first last w)[(p - 1).toNat]?
          else if p < 0 then (Date.weekdaysIn first last w).reverse[(-p - 1).toNat]?
          else none) :=
  ⟨weekdaysBetween_eq_weekdaysIn w hr, selectPositionalWeekday_eq_getElem? w hr p⟩

/-- In February 2024 the fifth Thursday is the leap day, the last of its Thursdays. -/
theorem weekday_positions_exact_leap_february :
    weekdaysBetween ⟨2024, 2, 1⟩ ⟨2024, 2, 29⟩ .thu =
        .ok (Date.weekdaysIn ⟨2024, 2, 1⟩ ⟨2024, 2, 29⟩ .thu) ∧
      selectPositionalWeekday ⟨2024, 2, 1⟩ ⟨2024, 2, 29⟩ .thu 5 =
        .ok ((Date.weekdaysIn ⟨2024, 2, 1⟩ ⟨2024, 2, 29⟩ .thu)[4]?) :=
  weekday_positions_exact .thu (Date.Inner.month (by decide) (by decide) (by decide) (by decide)) 5

end Range

end Cadence
