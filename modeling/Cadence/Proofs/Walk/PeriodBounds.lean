import Cadence.Walk.Occurrences
import Cadence.Proofs.Rule.Values

/-!
# Where the periods of a walk lie

A period of a walk starts at midnight of its first day, or, for an intraday rule, at its own
wall time, and every candidate it gives falls on that day or later. The period a walk expands
next has a larger index, and a period with a larger index starts on the same day or later.
Together these say that once a period starts past some day, so do all candidates still to
come, which is what lets a walk stop at the first period past its end.
-/

namespace Cadence

/-! ## Day counts of months and days -/

namespace Date

theorem le_def (a b : Date) : a ≤ b ↔ a.toDays ≤ b.toDays := Iff.rfl

theorem lt_def (a b : Date) : a < b ↔ a.toDays < b.toDays := Iff.rfl

theorem toDays_day (y : Int) (m d : Nat) : toDays ⟨y, m, d⟩ = toDays ⟨y, m, 1⟩ + d - 1 := by
  simp only [toDays]
  split <;> split <;> omega

theorem toDays_first_lt_next (y : Int) {m : Nat} (h1 : 1 ≤ m) (h2 : m ≤ 11) :
    toDays ⟨y, m, 1⟩ < toDays ⟨y, m + 1, 1⟩ := by
  simp only [toDays]
  split <;> split <;> split <;> split <;> omega

theorem toDays_december_lt_january (y : Int) : toDays ⟨y, 12, 1⟩ < toDays ⟨y + 1, 1, 1⟩ := by
  simp only [toDays]
  omega

/-- The day count of the first day of month `M`, months counted `12 * year + month - 1`. -/
def monthStart (M : Int) : Int := toDays ⟨M / 12, (M % 12).toNat + 1, 1⟩

theorem monthStart_lt_succ (M : Int) : monthStart M < monthStart (M + 1) := by
  unfold monthStart
  by_cases hdec : M % 12 = 11
  · -- December to the January after it
    have hy : (M + 1) / 12 = M / 12 + 1 := by omega
    have hm : ((M + 1) % 12).toNat + 1 = 1 := by omega
    rw [hy, hm, show (M % 12).toNat + 1 = 12 by omega]
    exact toDays_december_lt_january _
  · have hy : (M + 1) / 12 = M / 12 := by omega
    have hm : ((M + 1) % 12).toNat + 1 = (M % 12).toNat + 1 + 1 := by omega
    rw [hy, hm]
    exact toDays_first_lt_next _ (by omega) (by omega)

theorem monthStart_mono {M M' : Int} (h : M ≤ M') : monthStart M ≤ monthStart M' := by
  obtain ⟨k, rfl⟩ : ∃ k : Nat, M' = M + k := ⟨(M' - M).toNat, by omega⟩
  induction k with
  | zero => simp
  | succ k ih =>
    have hstep := monthStart_lt_succ (M + k)
    push_cast at ih hstep ⊢
    rw [← add_assoc]
    exact le_of_lt (lt_of_le_of_lt (ih (by omega)) hstep)

theorem monthStart_month (y : Int) {m : Nat} (h1 : 1 ≤ m) (h2 : m ≤ 12) :
    monthStart (12 * y + ((m : Int) - 1)) = toDays ⟨y, m, 1⟩ := by
  unfold monthStart
  have hy : (12 * y + ((m : Int) - 1)) / 12 = y := by omega
  have hm : ((12 * y + ((m : Int) - 1)) % 12).toNat + 1 = m := by omega
  rw [hy, hm]

theorem toDays_january_le (y : Int) {m d : Nat} (h1 : 1 ≤ m) (h2 : m ≤ 12) (hd : 1 ≤ d) :
    toDays ⟨y, 1, 1⟩ ≤ toDays ⟨y, m, d⟩ := by
  have hjan := monthStart_month y (m := 1) le_rfl (by omega)
  have hm := monthStart_month y h1 h2
  have hmono := monthStart_mono
    (show 12 * y + ((1 : Nat) - 1 : Int) ≤ 12 * y + ((m : Int) - 1) by omega)
  rw [hjan, hm] at hmono
  rw [toDays_day y m d]
  omega

theorem monthLength_ge (y : Int) {m : Nat} (h1 : 1 ≤ m) (h2 : m ≤ 12) : 28 ≤ monthLength y m := by
  interval_cases m <;> simp [monthLength]
  split_ifs <;> omega

theorem toDays_succ_month (y : Int) {m : Nat} (h1 : 1 ≤ m) (h2 : m ≤ 11) :
    toDays ⟨y, m + 1, 1⟩ = toDays ⟨y, m, 1⟩ + monthLength y m := by
  by_cases hfeb : m = 2
  · -- March 1 follows a leap day exactly in a leap year
    subst hfeb
    have hlen : (monthLength y 2 : Int) =
        if y % 4 = 0 ∧ (y % 100 ≠ 0 ∨ y % 400 = 0) then 29 else 28 := by
      simp [monthLength, isLeapYear]
    rw [hlen]
    simp only [toDays]
    split_ifs <;> omega
  · interval_cases m <;> simp only [toDays, monthLength] <;> omega

theorem toDays_new_year (y : Int) : toDays ⟨y + 1, 1, 1⟩ = toDays ⟨y, 12, 31⟩ + 1 := by
  simp only [toDays]
  omega

theorem toDays_month_end_le {y : Int} {m : Nat} (h1 : 1 ≤ m) (h2 : m ≤ 12) :
    toDays ⟨y, m, monthLength y m⟩ ≤ toDays ⟨y, 12, 31⟩ := by
  rw [toDays_day y m, toDays_day y 12 31]
  by_cases h12 : m = 12
  · subst h12
    simp [monthLength]
  · -- the first of the next month, and so of December, comes after the month's last day
    have hnext := toDays_succ_month y h1 (by omega : m ≤ 11)
    have hdec := monthStart_mono (show 12 * y + ((m + 1 : Nat) - 1 : Int) ≤ 12 * y + ((12 : Nat) - 1)
      by omega)
    rw [monthStart_month y (by omega) (by omega), monthStart_month y (by omega) le_rfl] at hdec
    have hlen := monthLength_ge y h1 h2
    omega

theorem ofYmd?_eq_some {y : Int} {m d : Nat} {e : Date} (h : ofYmd? y m d = some e) :
    e = ⟨y, m, d⟩ ∧ 1 ≤ m ∧ m ≤ 12 ∧ 1 ≤ d := by
  unfold ofYmd? at h
  split at h
  · rename_i hv
    cases h
    exact ⟨rfl, hv.2.2.1, hv.2.2.2.1, hv.2.2.2.2.1⟩
  · cases h

theorem within_month_of_ofYmd? {y : Int} {m d : Nat} {e : Date} (h : ofYmd? y m d = some e) :
    toDays ⟨y, m, 1⟩ ≤ e.toDays ∧ e.toDays ≤ toDays ⟨y, m, monthLength y m⟩ := by
  obtain ⟨⟨-, -, hd1, hd2⟩, rfl⟩ := valid_of_ofYmd? h
  dsimp only at hd1 hd2
  rw [toDays_day y m d, toDays_day y m (monthLength y m)]
  omega

theorem january_le_of_ofYmd? {y : Int} {m d : Nat} {e : Date} (h : ofYmd? y m d = some e) :
    toDays ⟨y, 1, 1⟩ ≤ e.toDays := by
  obtain ⟨rfl, h1, h2, hd⟩ := ofYmd?_eq_some h
  exact toDays_january_le y h1 h2 hd

theorem monthStart_year (y : Int) : monthStart (12 * y) = toDays ⟨y, 1, 1⟩ := by
  simpa using monthStart_month y (m := 1) le_rfl (by omega)

theorem within_year_of_ofYmd? {y : Int} {m d : Nat} {e : Date} (h : ofYmd? y m d = some e) :
    toDays ⟨y, 1, 1⟩ ≤ e.toDays ∧ e.toDays ≤ toDays ⟨y, 12, 31⟩ := by
  obtain ⟨-, h1, h2, -⟩ := ofYmd?_eq_some h
  exact ⟨january_le_of_ofYmd? h, le_trans (within_month_of_ofYmd? h).2 (toDays_month_end_le h1 h2)⟩

theorem toDays_addDays? {d e : Date} {n : Int} (h : d.addDays? n = some e) :
    e.toDays = d.toDays + n := by
  unfold addDays? ofDays? at h
  split at h
  · cases h
    exact toDays_ofDays _
  · cases h

theorem toDays_shift {d e : Date} {n : Int} (h : d.shift n = .ok e) : e.toDays = d.toDays + n := by
  unfold shift at h
  split at h
  · rename_i e' he
    cases h
    exact toDays_addDays? he
  · cases h

@[simp] theorem toDays_midnight_date (d : Date) : d.midnight.date.toDays = d.toDays := by
  simp only [midnight, WallTime.ofDays, WallTime.toDays_date, nanosPerDay, secondsPerDay,
    nanosPerSecond]
  omega

end Date

namespace WallTime

theorem le_toDays_ofDays (n : Int) (s : Nat) : n ≤ (WallTime.ofDays n s).date.toDays := by
  simp only [ofDays, toDays_date, nanosPerDay, secondsPerDay, nanosPerSecond]
  omega

end WallTime

/-! ## The dates a period selects -/

theorem ofYmd?_of_selectMonthDay {y : Int} {m : Nat} {day : Int} {d : Date}
    (h : selectMonthDay y m day = some d) : ∃ k, Date.ofYmd? y m k = some d := by
  unfold selectMonthDay at h
  obtain ⟨len, -, h⟩ := Option.bind_eq_some_iff.1 h
  dsimp only at h
  -- a negative day counts back from the end; either way the date is read by `ofYmd?`
  split at h <;> split at h
  · cases h
  · exact ⟨_, h⟩
  · cases h
  · exact ⟨_, h⟩

theorem selectPositionalWeekday_within {first last d : Date} {w : Weekday} {p : Int}
    {o : Option Date} (h : selectPositionalWeekday first last w p = .ok o) (hd : d ∈ o) :
    first ≤ d ∧ d ≤ last := by
  -- every branch ends by keeping its date only inside the range
  have hkeep : ∀ c : Option Date,
      d ∈ c.bind (fun c => if first ≤ c ∧ c ≤ last then some c else none) →
        first ≤ d ∧ d ≤ last := by
    intro c hc
    obtain ⟨c, -, hc⟩ := Option.bind_eq_some_iff.1 hc
    split at hc
    · cases hc
      assumption
    · cases hc
  unfold selectPositionalWeekday at h
  dsimp only at h
  split at h
  · obtain ⟨_, -, h⟩ := Except.bind_eq_ok.1 h
    cases h
    exact hkeep _ hd
  · split at h
    · obtain ⟨_, -, h⟩ := Except.bind_eq_ok.1 h
      cases h
      exact hkeep _ hd
    · cases h
      cases hd

theorem weekdaysBetween_within {first last : Date} {w : Weekday} {ds : List Date}
    (h : weekdaysBetween first last w = .ok ds) : ∀ d ∈ ds, first ≤ d ∧ d ≤ last := by
  unfold weekdaysBetween at h
  obtain ⟨fm, hfm, h⟩ := Except.bind_eq_ok.1 h
  have hshift := Date.toDays_shift hfm
  split at h
  · cases h
    simp
  · rename_i hfm_le
    rw [Date.lt_def] at hfm_le
    dsimp only at h
    split at h
    · cases h
      intro d hd
      obtain ⟨k, hk, rfl⟩ := List.mem_map.1 hd
      rw [List.mem_range] at hk
      rw [Date.le_def, Date.le_def, Date.toDays_ofDays]
      -- the steps counted reach no further than `last`
      omega
    · cases h

theorem Rule.expandByDay_within {r : Rule} {first last : Date} {ds : List Date}
    (h : r.expandByDay first last = .ok ds) : ∀ d ∈ ds, first ≤ d ∧ d ≤ last := by
  refine foldlM_invariant (fun acc : List Date => ∀ d ∈ acc, first ≤ d ∧ d ≤ last) ?_ (by simp) h
  intro acc wd _ acc' hacc hstep
  split at hstep
  · obtain ⟨o, ho, hstep⟩ := Except.bind_eq_ok.1 hstep
    cases hstep
    intro d hd
    rcases List.mem_append.1 hd with hd | hd
    · exact hacc d hd
    · exact selectPositionalWeekday_within ho (Option.mem_toList.1 hd)
  · obtain ⟨ws, hws, hstep⟩ := Except.bind_eq_ok.1 hstep
    cases hstep
    intro d hd
    rcases List.mem_append.1 hd with hd | hd
    · exact hacc d hd
    · exact weekdaysBetween_within hws d hd

theorem mem_of_filterAuxM {ε α : Type} {p : α → Except ε Bool} :
    ∀ {l acc out : List α}, List.filterAuxM p l acc = .ok out → ∀ x ∈ out, x ∈ l ∨ x ∈ acc
  | [], acc, out, h => by
    cases h
    exact fun x hx => .inr hx
  | a :: l, acc, out, h => by
    obtain ⟨b, -, h⟩ := Except.bind_eq_ok.1 h
    intro x hx
    rcases mem_of_filterAuxM h x hx with hl | hacc
    · exact .inl (List.mem_cons_of_mem _ hl)
    · cases b
      · exact .inr hacc
      · rcases List.mem_cons.1 hacc with rfl | hacc
        · exact .inl List.mem_cons_self
        · exact .inr hacc

theorem mem_of_filterM {ε α : Type} {p : α → Except ε Bool} {l out : List α}
    (h : l.filterM p = .ok out) : ∀ x ∈ out, x ∈ l := by
  obtain ⟨kept, hkept, h⟩ := Except.bind_eq_ok.1 h
  cases h
  intro x hx
  rcases mem_of_filterAuxM hkept x (List.mem_reverse.1 hx) with hl | hnil
  · exact hl
  · cases hnil

theorem Rule.monthDates_within {r : Rule} {y : Int} {m day : Nat} {scope : Date × Date}
    {ds : List Date} (h : r.monthDates y m day scope = .ok (some ds)) :
    1 ≤ m ∧ m ≤ 12 ∧ ∀ d ∈ ds, Date.toDays ⟨y, m, 1⟩ ≤ d.toDays ∧
      d.toDays ≤ Date.toDays ⟨y, m, monthLength y m⟩ := by
  unfold Rule.monthDates at h
  split at h
  · rename_i first last hfirst hlast
    obtain ⟨rfl, h1, h2, -⟩ := Date.ofYmd?_eq_some hfirst
    refine ⟨h1, h2, ?_⟩
    split at h
    · -- the month days of the rule, some of them kept
      obtain ⟨kept, hkept, h⟩ := Except.bind_eq_ok.1 h
      cases h
      intro d hd
      obtain ⟨_, -, hsel⟩ := List.mem_filterMap.1 (mem_of_filterM hkept d hd)
      obtain ⟨k, hk⟩ := ofYmd?_of_selectMonthDay hsel
      exact Date.within_month_of_ofYmd? hk
    · split at h
      · -- the month's weekdays, which lie from its first to its last day
        obtain ⟨dates, hdates, h⟩ := Except.bind_eq_ok.1 h
        cases h
        obtain ⟨len, -, hlast⟩ := Option.bind_eq_some_iff.1 hlast
        have hend := (Date.within_month_of_ofYmd? hlast).2
        intro d hd
        obtain ⟨hlo, hhi⟩ := Rule.expandByDay_within hdates d hd
        rw [Date.le_def] at hlo hhi
        exact ⟨hlo, le_trans hhi hend⟩
      · cases h
        intro d hd
        exact Date.within_month_of_ofYmd? (Option.mem_toList.1 hd)
  · cases h

theorem Rule.monthDates_within_year {r : Rule} {y : Int} {m day : Nat} {scope : Date × Date}
    {ds : List Date} (h : r.monthDates y m day scope = .ok (some ds)) :
    ∀ d ∈ ds, Date.toDays ⟨y, 1, 1⟩ ≤ d.toDays ∧ d.toDays ≤ Date.toDays ⟨y, 12, 31⟩ := by
  obtain ⟨h1, h2, hin⟩ := Rule.monthDates_within h
  intro d hd
  exact ⟨le_trans (Date.toDays_january_le y h1 h2 le_rfl) (hin d hd).1,
    le_trans (hin d hd).2 (Date.toDays_month_end_le h1 h2)⟩

theorem combineDates_ge {dates : List Date} {times : List Nat} {c : WallTime}
    (hc : c ∈ combineDates dates times) : ∃ d ∈ dates, d.toDays ≤ c.date.toDays := by
  obtain ⟨n, hn, hc⟩ := List.mem_flatMap.1 hc
  obtain ⟨s, -, rfl⟩ := List.mem_map.1 hc
  -- the sorted days are the days of the dates
  have hn' : n ∈ (dates.map Date.toDays).foldl (fun acc x => insertSorted x acc) [] := by
    rwa [List.foldl_map]
  rcases mem_foldl_insertSorted.1 hn' with hmem | hnil
  · obtain ⟨d, hd, rfl⟩ := List.mem_map.1 hmem
    exact ⟨d, hd, WallTime.le_toDays_ofDays _ _⟩
  · cases hnil

theorem combineDates_date_le {dates : List Date} {times : List Nat} {first : Date}
    (hdates : ∀ d ∈ dates, first ≤ d) : ∀ c ∈ combineDates dates times, first.midnight.date ≤ c.date := by
  intro c hc
  obtain ⟨d, hd, hdc⟩ := combineDates_ge hc
  rw [Date.le_def, Date.toDays_midnight_date]
  exact le_trans (hdates d hd) hdc

/-! ## The periods of each frequency -/

theorem concatMonths_ge {f : Nat → Except CalendarError (Option (List Date))} (P : Date → Prop)
    (hf : ∀ m ds, f m = .ok (some ds) → ∀ d ∈ ds, P d) :
    ∀ {ms : List Nat} {ds : List Date}, concatMonths f ms = .ok (some ds) → ∀ d ∈ ds, P d
  | [], ds, h => by
    cases h
    simp
  | m :: ms, ds, h => by
    obtain ⟨o, ho, h⟩ := Except.bind_eq_ok.1 h
    cases o with
    | none => cases h
    | some first =>
      obtain ⟨o', ho', h⟩ := Except.bind_eq_ok.1 h
      cases o' with
      | none => cases h
      | some rest =>
        cases h
        intro d hd
        rcases List.mem_append.1 hd with hd | hd
        · exact hf m first ho d hd
        · exact concatMonths_ge P hf ho' d hd

theorem period_dates {x : Except CalendarError (Option (List Date))} {start : WallTime}
    {times : List Nat} {i : Int} {p : Period} {P : Date → Prop}
    (hx : ∀ ds, x = .ok (some ds) → ∀ d ∈ ds, P d)
    (h : (x >>= fun dates? => pure (dates?.map fun dates =>
      (⟨start, combineDates dates times, i⟩ : Period))) = .ok (some p)) :
    ∃ ds, (∀ d ∈ ds, P d) ∧ p = ⟨start, combineDates ds times, i⟩ := by
  obtain ⟨dates?, hdates, h⟩ := Except.bind_eq_ok.1 h
  cases dates? with
  | none => cases h
  | some ds =>
    cases h
    exact ⟨ds, hx ds hdates, rfl⟩

theorem Rule.expandYearly_dates {r : Rule} {a : WallTime} {i : Int} {p : Period}
    (h : r.expandYearly a i = .ok (some p)) :
    ∃ ds : List Date, (∀ d ∈ ds, Date.toDays ⟨a.date.year + i * r.interval, 1, 1⟩ ≤ d.toDays ∧
        d.toDays ≤ Date.toDays ⟨a.date.year + i * r.interval, 12, 31⟩) ∧
      p = ⟨(⟨a.date.year + i * r.interval, 1, 1⟩ : Date).midnight,
        combineDates ds (r.timesOfDay a), i + 1⟩ := by
  unfold Rule.expandYearly at h
  dsimp only at h
  generalize a.date.year + i * r.interval = Y at h ⊢
  split at h
  · cases h
  split at h
  · rename_i janFirst hjan
    obtain ⟨rfl, -⟩ := Date.ofYmd?_eq_some hjan
    split at h
    · rename_i decLast hdec
      obtain ⟨rfl, -⟩ := Date.ofYmd?_eq_some hdec
      -- each way of selecting days keeps to the days of the year
      split at h
      · refine period_dates (fun ds hds => concatMonths_ge _ (fun m ds hm => ?_) hds) h
        split at hm
        · exact Rule.monthDates_within_year hm
        · cases hm
      · split at h
        · split at h
          · refine period_dates (fun ds hds => ?_) h
            obtain ⟨ds', hds', hds⟩ := Except.bind_eq_ok.1 hds
            cases hds
            exact Rule.expandByDay_within hds'
          · exact period_dates
              (fun ds hds => concatMonths_ge _ (fun m ds hm => Rule.monthDates_within_year hm) hds) h
        · split at h
          · refine period_dates (fun ds hds => ?_) h
            cases hds
            intro d hd
            obtain ⟨_, -, hd⟩ := List.mem_filterMap.1 hd
            exact Date.within_year_of_ofYmd? hd
          · refine period_dates (fun ds hds => ?_) h
            cases hds
            intro d hd
            exact Date.within_year_of_ofYmd? (Option.mem_toList.1 hd)
    · cases h
  · cases h

theorem Rule.expandYearly_eq_some {r : Rule} {a : WallTime} {i : Int} {p : Period}
    (h : r.expandYearly a i = .ok (some p)) :
    p.start.date.toDays = Date.monthStart (12 * (a.date.year + i * r.interval)) ∧
      p.next = i + 1 ∧ ∀ c ∈ p.candidates, p.start.date ≤ c.date := by
  obtain ⟨ds, hds, rfl⟩ := Rule.expandYearly_dates h
  refine ⟨?_, rfl, combineDates_date_le fun d hd => (hds d hd).1⟩
  rw [Date.toDays_midnight_date, Date.monthStart_year]

theorem advanceMonth_eq_some {y : Int} {m : Nat} {k y' : Int} {m' : Nat}
    (h : advanceMonth y m k = some (y', m')) :
    y' = (12 * y + ((m : Int) - 1) + k) / 12 ∧
      m' = ((12 * y + ((m : Int) - 1) + k) % 12).toNat + 1 := by
  unfold advanceMonth at h
  dsimp only at h
  split at h
  · split at h
    · cases h
      exact ⟨rfl, rfl⟩
    · cases h
  · cases h

theorem Rule.expandMonthly_dates {r : Rule} {a : WallTime} {i : Int} {p : Period}
    (h : r.expandMonthly a i = .ok (some p)) :
    ∃ (y : Int) (m : Nat) (ds : List Date),
      12 * y + ((m : Int) - 1) = 12 * a.date.year + ((a.date.month : Int) - 1) + i * r.interval ∧
      1 ≤ m ∧ m ≤ 12 ∧
      (∀ d ∈ ds, Date.toDays ⟨y, m, 1⟩ ≤ d.toDays ∧ d.toDays ≤ Date.toDays ⟨y, m, monthLength y m⟩) ∧
      p = ⟨(⟨y, m, 1⟩ : Date).midnight, combineDates ds (r.timesOfDay a), i + 1⟩ := by
  unfold Rule.expandMonthly at h
  dsimp only at h
  split at h
  · cases h
  split at h
  · rename_i y m hadv
    obtain ⟨hy, hm⟩ := advanceMonth_eq_some hadv
    split at h
    · rename_i first hfirst
      obtain ⟨rfl, h1, h2, -⟩ := Date.ofYmd?_eq_some hfirst
      split at h
      · -- the month's dates when the rule keeps the month, none otherwise
        have hM : 12 * y + ((m : Int) - 1) =
            12 * a.date.year + ((a.date.month : Int) - 1) + i * r.interval := by
          omega
        split at h
        · obtain ⟨ds, hds, rfl⟩ := period_dates (fun ds hds => (Rule.monthDates_within hds).2.2) h
          exact ⟨y, m, ds, hM, h1, h2, hds, rfl⟩
        · cases h
          exact ⟨y, m, [], hM, h1, h2, by simp, rfl⟩
      · cases h
    · cases h
  · cases h

theorem Rule.expandMonthly_eq_some {r : Rule} {a : WallTime} {i : Int} {p : Period}
    (h : r.expandMonthly a i = .ok (some p)) :
    p.start.date.toDays =
        Date.monthStart (12 * a.date.year + ((a.date.month : Int) - 1) + i * r.interval) ∧
      p.next = i + 1 ∧ ∀ c ∈ p.candidates, p.start.date ≤ c.date := by
  obtain ⟨y, m, ds, hM, h1, h2, hds, rfl⟩ := Rule.expandMonthly_dates h
  refine ⟨?_, rfl, combineDates_date_le fun d hd => (hds d hd).1⟩
  rw [Date.toDays_midnight_date, ← hM, Date.monthStart_month y h1 h2]

theorem Rule.weekDates_within {r : Rule} {weekStart : Date} :
    ∀ {wds : List Weekday} {ds : List Date}, r.weekDates weekStart wds = some ds →
      ∀ d ∈ ds, weekStart ≤ d ∧ d.toDays ≤ weekStart.toDays + 6
  | [], ds, h => by
    cases h
    simp
  | w :: wds, ds, h => by
    obtain ⟨d, hd, h⟩ := Option.bind_eq_some_iff.1 h
    obtain ⟨rest, hrest, h⟩ := Option.bind_eq_some_iff.1 h
    cases h
    have hd' : weekStart ≤ d ∧ d.toDays ≤ weekStart.toDays + 6 := by
      have hlt := Weekday.daysFrom_lt w r.weekStart
      rw [Date.le_def, Date.toDays_addDays? hd]
      omega
    intro e he
    split at he
    · rcases List.mem_cons.1 he with rfl | he
      · exact hd'
      · exact Rule.weekDates_within hrest e he
    · exact Rule.weekDates_within hrest e he

theorem Rule.expandWeekly_dates {r : Rule} {a : WallTime} {i : Int} {p : Period}
    (h : r.expandWeekly a i = some p) :
    ∃ first weekStart : Date, ∃ ds : List Date, startOfWeek a.date r.weekStart = some first ∧
      weekStart.toDays = first.toDays + 7 * (i * r.interval) ∧
      (∀ d ∈ ds, weekStart ≤ d ∧ d.toDays ≤ weekStart.toDays + 6) ∧
      p = ⟨weekStart.midnight, combineDates ds (r.timesOfDay a), i + 1⟩ := by
  unfold Rule.expandWeekly at h
  dsimp only at h
  split at h
  · cases h
  obtain ⟨first, hfirst, h⟩ := Option.bind_eq_some_iff.1 h
  obtain ⟨weekStart, hweek, h⟩ := Option.bind_eq_some_iff.1 h
  obtain ⟨dates, hdates, h⟩ := Option.bind_eq_some_iff.1 h
  cases h
  exact ⟨first, weekStart, dates, hfirst, Date.toDays_addDays? hweek,
    Rule.weekDates_within hdates, rfl⟩

theorem Rule.expandWeekly_eq_some {r : Rule} {a : WallTime} {i : Int} {p : Period}
    (h : r.expandWeekly a i = some p) :
    ∃ first, startOfWeek a.date r.weekStart = some first ∧
      p.start.date.toDays = first.toDays + 7 * (i * r.interval) ∧ p.next = i + 1 ∧
      ∀ c ∈ p.candidates, p.start.date ≤ c.date := by
  obtain ⟨first, weekStart, ds, hfirst, hweek, hds, rfl⟩ := Rule.expandWeekly_dates h
  refine ⟨first, hfirst, ?_, rfl, combineDates_date_le fun d hd => (hds d hd).1⟩
  rw [Date.toDays_midnight_date, hweek]

theorem Rule.expandDaily_dates {r : Rule} {a : WallTime} {i : Int} {p : Period}
    (h : r.expandDaily a i = some p) :
    ∃ (date : Date) (ds : List Date), date.toDays = a.date.toDays + i * r.interval ∧
      (∀ d ∈ ds, d = date) ∧ p = ⟨date.midnight, combineDates ds (r.timesOfDay a), i + 1⟩ := by
  unfold Rule.expandDaily at h
  dsimp only at h
  split at h
  · cases h
  obtain ⟨date, hdate, h⟩ := Option.bind_eq_some_iff.1 h
  cases h
  refine ⟨date, _, Date.toDays_addDays? hdate, fun d hd => ?_, rfl⟩
  split at hd
  · exact List.mem_singleton.1 hd
  · cases hd

theorem Rule.expandDaily_eq_some {r : Rule} {a : WallTime} {i : Int} {p : Period}
    (h : r.expandDaily a i = some p) :
    p.start.date.toDays = a.date.toDays + i * r.interval ∧ p.next = i + 1 ∧
      ∀ c ∈ p.candidates, p.start.date ≤ c.date := by
  obtain ⟨date, ds, hdate, hds, rfl⟩ := Rule.expandDaily_dates h
  refine ⟨by rw [Date.toDays_midnight_date, hdate], rfl, combineDates_date_le fun d hd => ?_⟩
  rw [hds d hd]
  exact Int.le_refl _

namespace WallTime

theorem date_le_of_nanos {t t' : WallTime} (h : t.nanos / nanosPerDay * nanosPerDay ≤ t'.nanos) :
    t.date ≤ t'.date := by
  rw [Date.le_def, toDays_date, toDays_date]
  simp only [nanosPerDay, secondsPerDay, nanosPerSecond] at *
  omega

theorem date_le_withSecond (t : WallTime) (s : Nat) : t.date ≤ (t.withSecond s).date := by
  apply date_le_of_nanos
  simp only [withSecond, second, secondOfDay, nanosPerDay, secondsPerDay, nanosPerSecond]
  omega

end WallTime

theorem Rule.expandIntraday_eq_some {r : Rule} {a : WallTime} {i : Int} {p : Period}
    (h : r.expandIntraday a i = some p) :
    a.addSeconds? (i * (r.frequency.unitSeconds * r.interval)) = some p.start ∧ i < p.next ∧
      ∀ c ∈ p.candidates, p.start.date ≤ c.date := by
  unfold Rule.expandIntraday at h
  dsimp only at h
  split at h
  · simp at h
  obtain ⟨current, hcur, h⟩ := Option.bind_eq_some_iff.1 h
  -- a period that skips ahead has no candidates, one that does not moves to the next index
  have hskip : ∀ n : Int, (if inCountRange (i + max 1 n) then
      some (⟨current, [], i + max 1 n⟩ : Period) else none) = some p →
      a.addSeconds? (i * (r.frequency.unitSeconds * r.interval)) = some p.start ∧ i < p.next ∧
        ∀ c ∈ p.candidates, p.start.date ≤ c.date := by
    intro n hn
    split at hn
    · cases hn
      exact ⟨hcur, show i < i + max 1 n by omega, by simp⟩
    · cases hn
  have hperiod : ∀ cs : List WallTime, (∀ c ∈ cs, current.date ≤ c.date) →
      (if inCountRange (i + 1) then some (⟨current, cs, i + 1⟩ : Period) else none) = some p →
      a.addSeconds? (i * (r.frequency.unitSeconds * r.interval)) = some p.start ∧ i < p.next ∧
        ∀ c ∈ p.candidates, p.start.date ≤ c.date := by
    intro cs hcs hn
    split at hn
    · cases hn
      exact ⟨hcur, show i < i + 1 by omega, hcs⟩
    · cases hn
  split at h
  · obtain ⟨_, -, h⟩ := Option.bind_eq_some_iff.1 h
    exact hskip _ h
  split at h
  · obtain ⟨_, -, h⟩ := Option.bind_eq_some_iff.1 h
    exact hskip _ h
  split at h
  · -- hourly: each minute and second of the hour the step falls in
    refine hperiod _ (fun c hc => ?_) h
    obtain ⟨_, -, hc⟩ := List.mem_flatMap.1 hc
    obtain ⟨_, -, rfl⟩ := List.mem_map.1 hc
    apply WallTime.date_le_of_nanos
    simp only [WallTime.ofDays, WallTime.toDays_date, nanosPerDay, secondsPerDay, nanosPerSecond]
    omega
  · -- minutely: each second of the minute
    split at h
    · obtain ⟨_, -, h⟩ := Option.bind_eq_some_iff.1 h
      exact hskip _ h
    · refine hperiod _ (fun c hc => ?_) h
      obtain ⟨_, -, rfl⟩ := List.mem_map.1 hc
      exact WallTime.date_le_withSecond _ _
  · -- secondly: the step itself
    split at h
    · obtain ⟨_, -, h⟩ := Option.bind_eq_some_iff.1 h
      exact hskip _ h
    · split at h
      · obtain ⟨_, -, h⟩ := Option.bind_eq_some_iff.1 h
        exact hskip _ h
      · exact hperiod _ (fun c hc => by rw [List.mem_singleton.1 hc]; exact (Date.le_def _ _).2 le_rfl) h

/-! ## Periods of any frequency -/

theorem WallTime.nanos_addSeconds? {t u : WallTime} {n : Int} (h : t.addSeconds? n = some u) :
    u.nanos = t.nanos + n * nanosPerSecond := by
  unfold addSeconds? at h
  dsimp only at h
  split at h
  · cases h
    rfl
  · cases h

theorem Frequency.unitSeconds_nonneg (f : Frequency) : 0 ≤ f.unitSeconds := by
  cases f <;> simp [Frequency.unitSeconds]

theorem Rule.expand_candidate_ge {r : Rule} {a : WallTime} {i : Int} {p : Period}
    (h : r.expand a i = .ok (some p)) : ∀ c ∈ p.candidates, p.start.date ≤ c.date := by
  unfold Rule.expand at h
  split at h
  · exact (Rule.expandYearly_eq_some h).2.2
  · exact (Rule.expandMonthly_eq_some h).2.2
  · exact (Rule.expandWeekly_eq_some (Except.ok.inj h)).choose_spec.2.2.2
  · exact (Rule.expandDaily_eq_some (Except.ok.inj h)).2.2
  · exact (Rule.expandIntraday_eq_some (Except.ok.inj h)).2.2

theorem Rule.lt_expand_next {r : Rule} {a : WallTime} {i : Int} {p : Period}
    (h : r.expand a i = .ok (some p)) : i < p.next := by
  unfold Rule.expand at h
  split at h
  · rw [(Rule.expandYearly_eq_some h).2.1]
    omega
  · rw [(Rule.expandMonthly_eq_some h).2.1]
    omega
  · rw [(Rule.expandWeekly_eq_some (Except.ok.inj h)).choose_spec.2.2.1]
    omega
  · rw [(Rule.expandDaily_eq_some (Except.ok.inj h)).2.1]
    omega
  · exact (Rule.expandIntraday_eq_some (Except.ok.inj h)).2.1

theorem Rule.expand_start_mono {r : Rule} {a : WallTime} {i j : Int} {p q : Period}
    (hi : r.expand a i = .ok (some p)) (hj : r.expand a j = .ok (some q)) (hij : i ≤ j) :
    p.start.date ≤ q.start.date := by
  have hstep : i * r.interval ≤ j * r.interval :=
    Int.mul_le_mul_of_nonneg_right hij (Int.natCast_nonneg _)
  rw [Date.le_def]
  unfold Rule.expand at hi hj
  cases hf : r.frequency <;> simp only [hf] at hi hj
  · rw [(Rule.expandYearly_eq_some hi).1, (Rule.expandYearly_eq_some hj).1]
    exact Date.monthStart_mono (by omega)
  · rw [(Rule.expandMonthly_eq_some hi).1, (Rule.expandMonthly_eq_some hj).1]
    exact Date.monthStart_mono (by omega)
  · obtain ⟨first, hfirst, hp, -⟩ := Rule.expandWeekly_eq_some (Except.ok.inj hi)
    obtain ⟨first', hfirst', hq, -⟩ := Rule.expandWeekly_eq_some (Except.ok.inj hj)
    rw [hfirst] at hfirst'
    cases hfirst'
    omega
  · rw [(Rule.expandDaily_eq_some (Except.ok.inj hi)).1,
      (Rule.expandDaily_eq_some (Except.ok.inj hj)).1]
    omega
  all_goals
    -- an intraday period starts at the anchor moved by whole steps, and steps are not negative
    have hunit := r.frequency.unitSeconds_nonneg
    have hsteps : i * (r.frequency.unitSeconds * r.interval) ≤
        j * (r.frequency.unitSeconds * r.interval) :=
      Int.mul_le_mul_of_nonneg_right hij (Int.mul_nonneg hunit (Int.natCast_nonneg _))
    have hp := WallTime.nanos_addSeconds? (Rule.expandIntraday_eq_some (Except.ok.inj hi)).1
    have hq := WallTime.nanos_addSeconds? (Rule.expandIntraday_eq_some (Except.ok.inj hj)).1
    rw [← Date.le_def]
    apply WallTime.date_le_of_nanos
    simp only [nanosPerDay, secondsPerDay, nanosPerSecond] at hp hq ⊢
    omega

end Cadence
