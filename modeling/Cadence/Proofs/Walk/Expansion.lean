import Cadence.Proofs.Calendar.Selection

/-!
# The candidates of yearly and monthly periods

A yearly or monthly period strictly inside the calendar gives every date it selects at every
time of day of the rule, in ascending order and without repeats (`Rule.expandYearly_candidates`,
`Rule.expandMonthly_candidates`). The selected dates are said without the branches of the code:
a date of the period's year or month is selected when it lies in a month the rule names, is one
of the rule's month days, falls on one of its weekdays at the position the weekday names
(counted in the month, or in the year for a yearly rule that names no months), and, when the
rule has neither month days nor weekdays, is the anchor's day of the month (and the anchor's
month, for a yearly rule that names no months).

The periods are built from three steps, each stated once: the dates of one month
(`Rule.monthDates_spec`), the weekdays of a range (`Rule.expandByDay_spec`), and the join of
dates with times of day (`combineDates_spec`).
-/
namespace Cadence

/-! ## Tests and folds that succeed -/

/-- A test that may fail succeeds and answers whether `P` holds. -/
def Decides {ε : Type} (x : Except ε Bool) (P : Prop) : Prop :=
  ∃ b, x = .ok b ∧ (b = true ↔ P)

section Folds

variable {ε α β : Type}

theorem anyE_decides {f : α → Except ε Bool} {P : α → Prop} :
    ∀ {l : List α}, (∀ x ∈ l, Decides (f x) (P x)) → Decides (anyE f l) (∃ x ∈ l, P x)
  | [], _ => ⟨false, rfl, by simp⟩
  | a :: l, h => by
    obtain ⟨b, hb, hbP⟩ := h a List.mem_cons_self
    obtain ⟨c, hc, hcP⟩ := anyE_decides (l := l) fun x hx => h x (List.mem_cons_of_mem _ hx)
    cases b
    · -- the test fails at the first element, so the answer is that of the rest
      refine ⟨c, by simp [anyE, hb, hc], ?_⟩
      simp only [Bool.false_eq_true, false_iff] at hbP
      rw [hcP]
      simp only [List.mem_cons, exists_eq_or_imp]
      exact ⟨.inr, fun h => h.resolve_left hbP⟩
    · refine ⟨true, by simp [anyE, hb], ?_⟩
      simp only [true_iff] at hbP ⊢
      exact ⟨a, List.mem_cons_self, hbP⟩

theorem filterAuxM_spec {p : α → Except ε Bool} {P : α → Prop} :
    ∀ {l : List α} (acc : List α), (∀ x ∈ l, Decides (p x) (P x)) →
      ∃ out, List.filterAuxM p l acc = .ok out ∧ ∀ x, x ∈ out ↔ x ∈ l ∧ P x ∨ x ∈ acc
  | [], acc, _ => ⟨acc, rfl, by simp⟩
  | a :: l, acc, h => by
    obtain ⟨b, hb, hbP⟩ := h a List.mem_cons_self
    obtain ⟨out, hout, hmem⟩ := filterAuxM_spec (l := l) (cond b (a :: acc) acc)
      fun x hx => h x (List.mem_cons_of_mem _ hx)
    refine ⟨out, by simp [List.filterAuxM, hb, hout], fun x => ?_⟩
    rw [hmem]
    -- the first element joins the kept ones exactly when it passes the test
    cases b
    · simp only [Bool.false_eq_true, false_iff] at hbP
      simp only [cond_false, List.mem_cons]
      constructor
      · rintro (⟨hl, hp⟩ | hacc)
        · exact .inl ⟨.inr hl, hp⟩
        · exact .inr hacc
      · rintro (⟨rfl | hl, hp⟩ | hacc)
        · exact absurd hp hbP
        · exact .inl ⟨hl, hp⟩
        · exact .inr hacc
    · simp only [true_iff] at hbP
      simp only [cond_true, List.mem_cons]
      constructor
      · rintro (⟨hl, hp⟩ | rfl | hacc)
        · exact .inl ⟨.inr hl, hp⟩
        · exact .inl ⟨.inl rfl, hbP⟩
        · exact .inr hacc
      · rintro (⟨rfl | hl, hp⟩ | hacc)
        · exact .inr (.inl rfl)
        · exact .inl ⟨hl, hp⟩
        · exact .inr (.inr hacc)

theorem filterM_spec {p : α → Except ε Bool} {P : α → Prop} {l : List α}
    (h : ∀ x ∈ l, Decides (p x) (P x)) :
    ∃ out, l.filterM p = .ok out ∧ ∀ x, x ∈ out ↔ x ∈ l ∧ P x := by
  obtain ⟨out, hout, hmem⟩ := filterAuxM_spec [] h
  exact ⟨out.reverse, by simp [List.filterM, hout], fun x => by simp [hmem]⟩

theorem foldlM_append_spec {f : List β → α → Except ε (List β)} {S : α → β → Prop} :
    ∀ {l : List α}, (∀ acc, ∀ a ∈ l, ∃ xs, f acc a = .ok (acc ++ xs) ∧ ∀ x, x ∈ xs ↔ S a x) →
      ∀ acc, ∃ out, l.foldlM f acc = .ok out ∧ ∀ x, x ∈ out ↔ x ∈ acc ∨ ∃ a ∈ l, S a x
  | [], _, acc => ⟨acc, rfl, by simp⟩
  | a :: l, h, acc => by
    obtain ⟨xs, hxs, hmem⟩ := h acc a List.mem_cons_self
    obtain ⟨out, hout, hmem'⟩ := foldlM_append_spec (l := l)
      (fun acc' a' ha' => h acc' a' (List.mem_cons_of_mem _ ha')) (acc ++ xs)
    refine ⟨out, by rw [List.foldlM_cons, hxs, Except.ok_bind, hout], fun x => ?_⟩
    rw [hmem', List.mem_append, hmem]
    simp only [List.mem_cons, exists_eq_or_imp]
    tauto

theorem concatMonths_spec {f : Nat → Except CalendarError (Option (List Date))}
    {S : Nat → Date → Prop} :
    ∀ {ms : List Nat}, (∀ m ∈ ms, ∃ ds, f m = .ok (some ds) ∧ ∀ d, d ∈ ds ↔ S m d) →
      ∃ ds, concatMonths f ms = .ok (some ds) ∧ ∀ d, d ∈ ds ↔ ∃ m ∈ ms, S m d
  | [], _ => ⟨[], rfl, by simp⟩
  | m :: ms, h => by
    obtain ⟨ds, hds, hmem⟩ := h m List.mem_cons_self
    obtain ⟨rest, hrest, hmem'⟩ := concatMonths_spec
      fun m' hm' => h m' (List.mem_cons_of_mem m hm')
    refine ⟨ds ++ rest, by simp [concatMonths, hds, hrest], fun d => ?_⟩
    rw [List.mem_append, hmem, hmem']
    simp only [List.mem_cons, exists_eq_or_imp]

end Folds

/-! ## Weekdays of a `BYDAY` part -/

/-- Day `d` falls on the weekday of a `BYDAY` entry and, when the entry has a position, is that
weekday's occurrence at the position among the days `first` to `last`. -/
def WeekdayNum.Selects (e : WeekdayNum) (first last d : Date) : Prop :=
  d.weekday = e.weekday ∧ ∀ p ∈ e.position, d.IsNth e.weekday p first last

section Inner

variable {first last : Date} (hr : Date.Inner first last)
include hr

theorem WeekdayNum.matches_decides (e : WeekdayNum) {d : Date} (hd : d.Valid) :
    Decides (e.matches d first last) (e.Selects first last d) := by
  unfold WeekdayNum.matches
  by_cases hw : e.weekday = d.weekday
  · rw [if_neg (not_not.2 hw)]
    cases hp : e.position with
    | none => exact ⟨true, rfl, by simp [Selects, hw, hp]⟩
    | some p =>
      obtain ⟨o, ho, hspec⟩ := selectPositionalWeekday_spec e.weekday hr p
      refine ⟨decide (o = some d), by simp [ho], ?_⟩
      simp [Selects, hw, hp, hspec, hd]
  · rw [if_pos hw]
    refine ⟨false, rfl, ?_⟩
    simp only [Bool.false_eq_true, false_iff, Selects]
    exact fun h => hw h.1.symm

/-- The weekdays of a rule select, from an inner range, the days that fall on one of them at the
position it names. -/
theorem Rule.expandByDay_spec (r : Rule) :
    ∃ ds, r.expandByDay first last = .ok ds ∧
      ∀ d, d ∈ ds ↔ d.Valid ∧ first ≤ d ∧ d ≤ last ∧ ∃ e ∈ r.byDay, e.Selects first last d := by
  unfold Rule.expandByDay
  refine (foldlM_append_spec (S := fun e d => d.Valid ∧ first ≤ d ∧ d ≤ last ∧
    e.Selects first last d) (fun acc e _ => ?_) []).imp fun ds h => ⟨h.1, fun d => ?_⟩
  · cases hp : e.position with
    | some p =>
      -- one date at most: the weekday at its position
      obtain ⟨o, ho, hspec⟩ := selectPositionalWeekday_spec e.weekday hr p
      refine ⟨o.toList, by simp [ho], fun d => ?_⟩
      rw [Option.mem_toList, hspec]
      simp only [WeekdayNum.Selects, hp, Option.mem_def, Option.some.injEq, forall_eq']
      constructor
      · rintro ⟨hv, hn⟩
        exact ⟨hv, hn.1, hn.2.1, hn.2.2.1, hn⟩
      · rintro ⟨hv, -, -, -, hn⟩
        exact ⟨hv, hn⟩
    | none =>
      -- every date of the range on the weekday
      obtain ⟨ws, hws, -, hspec⟩ := weekdaysBetween_spec e.weekday hr
      refine ⟨ws, by simp [hws], fun d => ?_⟩
      simp [hspec, WeekdayNum.Selects, hp]
  · simp only [h.2 d, List.not_mem_nil, false_or]
    constructor
    · rintro ⟨e, he, hv, hlo, hhi, hs⟩
      exact ⟨hv, hlo, hhi, e, he, hs⟩
    · rintro ⟨hv, hlo, hhi, e, he, hs⟩
      exact ⟨e, he, hv, hlo, hhi, hs⟩

end Inner

/-! ## The dates of a month -/

/-- The days of a month that the month-day and weekday parts of a rule select, weekday positions
counted among the days of `scope`; with neither part, the anchor's day `day`. -/
def Rule.SelectsDay (r : Rule) (day : Nat) (scope : Date × Date) (d : Date) : Prop :=
  (r.byMonthDay ≠ [] → ∃ k ∈ r.byMonthDay, d.IsMonthDayOf k) ∧
  (r.byDay ≠ [] → ∃ e ∈ r.byDay, e.Selects scope.1 scope.2 d) ∧
  (r.byMonthDay = [] → r.byDay = [] → d.day = day)

namespace Date

theorem monthStart_succ (y : Int) {m : Nat} (h1 : 1 ≤ m) (h2 : m ≤ 12) :
    monthStart (12 * y + ((m : Int) - 1) + 1) = toDays ⟨y, m, monthLength y m⟩ + 1 := by
  rw [toDays_day y m]
  by_cases h12 : m = 12
  · subst h12
    rw [show 12 * y + ((12 : Nat) - 1 : Int) + 1 = 12 * (y + 1) + ((1 : Nat) - 1) by omega,
      monthStart_month _ le_rfl (by omega), toDays_new_year, toDays_day y 12 31]
    simp [monthLength]
  · rw [show 12 * y + ((m : Int) - 1) + 1 = 12 * y + ((m + 1 : Nat) - 1 : Int) by omega,
      monthStart_month _ (by omega) (by omega), toDays_succ_month y h1 (by omega)]
    omega

theorem month_eq_iff {d : Date} (hd : d.Valid) {y : Int} {m : Nat} (h1 : 1 ≤ m) (h2 : m ≤ 12) :
    d.year = y ∧ d.month = m ↔
      toDays ⟨y, m, 1⟩ ≤ d.toDays ∧ d.toDays ≤ toDays ⟨y, m, monthLength y m⟩ := by
  have hend := toDays_le_month_end hd
  obtain ⟨yd, md, day⟩ := d
  obtain ⟨hm1, hm2, hd1, -⟩ := hd
  dsimp only at hend hm1 hm2 hd1 ⊢
  have hstart := toDays_day yd md day
  constructor
  · rintro ⟨rfl, rfl⟩
    exact ⟨by omega, hend⟩
  · rintro ⟨hlo, hhi⟩
    -- the month indices agree, as months of other indices lie wholly before or after
    have hD := monthStart_month yd hm1 hm2
    have hD' := monthStart_succ yd hm1 hm2
    have hM := monthStart_month y h1 h2
    have hM' := monthStart_succ y h1 h2
    have hidx : 12 * yd + ((md : Int) - 1) = 12 * y + ((m : Int) - 1) := by
      by_contra hne
      rcases lt_or_gt_of_ne hne with hlt | hgt
      · have := monthStart_mono (show 12 * yd + ((md : Int) - 1) + 1 ≤ 12 * y + ((m : Int) - 1)
          by omega)
        omega
      · have := monthStart_mono (show 12 * y + ((m : Int) - 1) + 1 ≤ 12 * yd + ((md : Int) - 1)
          by omega)
        omega
    omega

end Date

/-- The dates `Rule.monthDates` gives for a month strictly inside the calendar are the days of
the month the rule selects. -/
theorem Rule.monthDates_spec (r : Rule) {y : Int} {m : Nat} (hy0 : minYear < y) (hy1 : y < maxYear)
    (h1 : 1 ≤ m) (h2 : m ≤ 12) (day : Nat) (scope : Date × Date) (hs : Date.Inner scope.1 scope.2) :
    ∃ ds, r.monthDates y m day scope = .ok (some ds) ∧ ∀ d, d ∈ ds ↔ d.Valid ∧ d.year = y ∧
      d.month = m ∧ r.SelectsDay day (if r.byMonthDay = [] then monthEnds y m else scope) d := by
  unfold Rule.monthDates
  rw [firstOfMonth_eq hy0.le hy1.le h1 h2, lastOfMonth_eq hy0.le hy1 h1 h2]
  dsimp only
  by_cases hmd : r.byMonthDay = []
  · simp only [hmd, List.isEmpty_nil, Bool.not_true, Bool.false_eq_true, if_false, if_true]
    by_cases hbd : r.byDay = []
    · -- the anchor's day of the month
      simp only [hbd, List.isEmpty_nil, Bool.not_true, Bool.false_eq_true, if_false]
      refine ⟨_, rfl, fun d => ?_⟩
      rw [Option.mem_toList, Date.ofYmd?_eq_some_iff]
      simp only [Rule.SelectsDay, hmd, hbd, ne_eq, not_true_eq_false, IsEmpty.forall_iff,
        forall_const, true_and]
      constructor
      · rintro ⟨hv, rfl, -, -⟩
        exact ⟨hv, rfl, rfl, rfl⟩
      · rintro ⟨hv, hy, hm, hday⟩
        obtain ⟨yd, md, dd⟩ := d
        dsimp only at hy hm hday
        subst hy hm hday
        exact ⟨hv, rfl, hy0.le, hy1.le⟩
    · -- the weekdays of the month
      have hbd' : r.byDay.isEmpty = false := by simpa using hbd
      simp only [hbd', Bool.not_false, if_true]
      obtain ⟨ds, hds, hmem⟩ := r.expandByDay_spec (Date.Inner.month hy0 hy1 h1 h2)
      refine ⟨ds, by rw [hds]; rfl, fun d => ?_⟩
      rw [hmem]
      simp only [Rule.SelectsDay, hmd, hbd, monthEnds, ne_eq, not_true_eq_false, not_false_eq_true,
        IsEmpty.forall_iff, forall_const, true_and, and_true]
      constructor
      · rintro ⟨hv, hlo, hhi, he⟩
        exact ⟨hv, ((Date.month_eq_iff hv h1 h2).2 ⟨hlo, hhi⟩).1,
          ((Date.month_eq_iff hv h1 h2).2 ⟨hlo, hhi⟩).2, he⟩
      · rintro ⟨hv, hy, hm, he⟩
        exact ⟨hv, ((Date.month_eq_iff hv h1 h2).1 ⟨hy, hm⟩).1,
          ((Date.month_eq_iff hv h1 h2).1 ⟨hy, hm⟩).2, he⟩
  · -- the month days, kept when one of the weekdays selects them
    have hmd' : r.byMonthDay.isEmpty = false := by simpa using hmd
    simp only [hmd', Bool.not_false, if_true, hmd, if_false]
    have hdays : ∀ d, d ∈ r.byMonthDay.filterMap (selectMonthDay y m) ↔
        d.Valid ∧ d.year = y ∧ d.month = m ∧ ∃ k ∈ r.byMonthDay, d.IsMonthDayOf k := by
      intro d
      simp only [List.mem_filterMap, selectMonthDay_eq_some_iff hy0.le hy1 h1 h2]
      constructor
      · rintro ⟨k, hk, hv, hy, hm, hkd⟩
        exact ⟨hv, hy, hm, k, hk, hkd⟩
      · rintro ⟨hv, hy, hm, k, hk, hkd⟩
        exact ⟨k, hk, hv, hy, hm, hkd⟩
    -- each month day is tested against the weekdays, and every test succeeds
    have htest : ∀ d ∈ r.byMonthDay.filterMap (selectMonthDay y m),
        Decides (if r.byDay.isEmpty then pure true
          else anyE (fun wd => wd.matches d scope.1 scope.2) r.byDay)
          (r.byDay = [] ∨ ∃ e ∈ r.byDay, e.Selects scope.1 scope.2 d) := by
      intro d hd
      have hv := ((hdays d).1 hd).1
      by_cases hbd : r.byDay = []
      · exact ⟨true, by simp [hbd], by simp [hbd]⟩
      · have hbd' : r.byDay.isEmpty = false := by simpa using hbd
        obtain ⟨b, hb, hbP⟩ := anyE_decides (l := r.byDay) fun e _ => e.matches_decides hs hv
        exact ⟨b, by simp [hbd', hb], by rw [hbP]; simp [hbd]⟩
    obtain ⟨kept, hkept, hmem⟩ := filterM_spec htest
    refine ⟨kept, by rw [hkept]; rfl, fun d => ?_⟩
    rw [hmem, hdays]
    simp only [Rule.SelectsDay, ne_eq, hmd, not_false_eq_true, true_implies, IsEmpty.forall_iff,
      and_true]
    constructor
    · rintro ⟨⟨hv, hy, hm, hk⟩, hbd⟩
      exact ⟨hv, hy, hm, hk, fun hne => hbd.resolve_left hne⟩
    · rintro ⟨hv, hy, hm, hk, hbd⟩
      exact ⟨⟨hv, hy, hm, hk⟩, (em (r.byDay = [])).imp_right hbd⟩

/-! ## Dates joined with times of day -/

/-- The hour, minute and second parts of a rule are sets, kept ascending without repeats. -/
structure Rule.ClockSets (r : Rule) : Prop where
  byHour : r.byHour.Pairwise (· < ·)
  byMinute : r.byMinute.Pairwise (· < ·)
  bySecond : r.bySecond.Pairwise (· < ·)

theorem valuesOr_pairwise {xs : List Nat} (h : xs.Pairwise (· < ·)) (a : Nat) :
    (valuesOr xs a).Pairwise (· < ·) := by
  unfold valuesOr
  split_ifs <;> simp [h]

theorem clockSeconds?_eq_some {h m s n : Nat} :
    clockSeconds? h m s = some n ↔ h < 24 ∧ m < 60 ∧ s < 60 ∧ n = h * 3600 + m * 60 + s := by
  unfold clockSeconds?
  split_ifs with hc
  · simp [hc, eq_comm]
  · simp only [false_iff]
    exact fun h => hc ⟨h.1, h.2.1, h.2.2.1⟩

theorem Rule.timesOfDay_ascending {r : Rule} (hc : r.ClockSets) (n : WallTime) :
    (r.timesOfDay n).Pairwise (· < ·) ∧ ∀ s ∈ r.timesOfDay n, s < 86400 := by
  -- a time of the hour `h` and minute `m` lies in that minute
  have hmem : ∀ h m x, x ∈ (valuesOr r.bySecond n.second).filterMap (clockSeconds? h m) →
      h < 24 ∧ m < 60 ∧ h * 3600 + m * 60 ≤ x ∧ x < h * 3600 + m * 60 + 60 := by
    intro h m x hx
    obtain ⟨s, -, hs⟩ := List.mem_filterMap.1 hx
    obtain ⟨hh, hm, hs, rfl⟩ := clockSeconds?_eq_some.1 hs
    omega
  have hminute : ∀ h x, x ∈ (valuesOr r.byMinute n.minute).flatMap (fun m =>
      (valuesOr r.bySecond n.second).filterMap (clockSeconds? h m)) →
      h < 24 ∧ h * 3600 ≤ x ∧ x < h * 3600 + 3600 := by
    intro h x hx
    obtain ⟨m, -, hx⟩ := List.mem_flatMap.1 hx
    have := hmem h m x hx
    omega
  refine ⟨List.pairwise_flatMap.2 ⟨fun h _ => List.pairwise_flatMap.2 ⟨fun m _ => ?_, ?_⟩, ?_⟩,
    fun x hx => ?_⟩
  · exact (valuesOr_pairwise hc.bySecond _).filterMap _ fun s t hst a ha b hb => by
      obtain ⟨-, -, -, rfl⟩ := clockSeconds?_eq_some.1 ha
      obtain ⟨-, -, -, rfl⟩ := clockSeconds?_eq_some.1 hb
      omega
  · exact (valuesOr_pairwise hc.byMinute _).imp fun {m m'} hmm' a ha b hb => by
      have := hmem h m a ha
      have := hmem h m' b hb
      omega
  · exact (valuesOr_pairwise hc.byHour _).imp fun {h h'} hhh' a ha b hb => by
      have := hminute h a ha
      have := hminute h' b hb
      omega
  · obtain ⟨h, -, hx⟩ := List.mem_flatMap.1 hx
    have := hminute h x hx
    omega

theorem sortedDays_eq (dates : List Date) :
    sortedDays dates = (dates.map Date.toDays).foldl (fun acc x => insertSorted x acc) [] := by
  rw [sortedDays, List.foldl_map]

theorem mem_sortedDays {dates : List Date} {n : Int} :
    n ∈ sortedDays dates ↔ ∃ d ∈ dates, d.toDays = n := by
  rw [sortedDays_eq, mem_foldl_insertSorted]
  simp

theorem sortedDays_pairwise (dates : List Date) : (sortedDays dates).Pairwise (· < ·) := by
  rw [sortedDays_eq]
  exact pairwise_foldl_insertSorted List.Pairwise.nil

/-- Dates joined with ascending times of one day: every time on every date, in ascending order
and without repeats, however the dates were listed. -/
theorem combineDates_spec {dates : List Date} {times : List Nat} (ht : times.Pairwise (· < ·))
    (hday : ∀ s ∈ times, s < 86400) :
    (combineDates dates times).Pairwise (· < ·) ∧ ∀ c, c ∈ combineDates dates times ↔
      ∃ d ∈ dates, ∃ s ∈ times, c = WallTime.ofDays d.toDays s := by
  refine ⟨List.pairwise_flatMap.2 ⟨fun n _ => ?_, (sortedDays_pairwise dates).imp ?_⟩, fun c => ?_⟩
  · -- the times of one day keep their order
    refine List.pairwise_map.2 (ht.imp fun {s t} hst => ?_)
    show (_ : Int) < _
    simp only [WallTime.ofDays, secondsPerDay, nanosPerSecond]
    omega
  · -- every time of an earlier day comes before every time of a later one
    intro a b hab x hx y hy
    obtain ⟨s, hs, rfl⟩ := List.mem_map.1 hx
    obtain ⟨t, -, rfl⟩ := List.mem_map.1 hy
    have := hday s hs
    show (_ : Int) < _
    simp only [WallTime.ofDays, secondsPerDay, nanosPerSecond]
    omega
  · simp only [combineDates, List.mem_flatMap, List.mem_map, mem_sortedDays]
    constructor
    · rintro ⟨_, ⟨d, hd, rfl⟩, s, hs, rfl⟩
      exact ⟨d, hd, s, hs, rfl⟩
    · rintro ⟨d, hd, s, hs, rfl⟩
      exact ⟨_, ⟨d, hd, rfl⟩, s, hs, rfl⟩

theorem combineDates_selected {D : Date → Prop} {ds : List Date} (hmem : ∀ d, d ∈ ds ↔ D d)
    {r : Rule} (hc : r.ClockSets) (n : WallTime) :
    (combineDates ds (r.timesOfDay n)).Pairwise (· < ·) ∧ ∀ c, c ∈ combineDates ds (r.timesOfDay n) ↔
      ∃ d, D d ∧ ∃ s ∈ r.timesOfDay n, c = WallTime.ofDays d.toDays s := by
  obtain ⟨ht, hday⟩ := Rule.timesOfDay_ascending hc n
  refine ⟨(combineDates_spec ht hday).1, fun c => ?_⟩
  rw [(combineDates_spec ht hday).2]
  simp [hmem]

/-! ## Yearly and monthly periods -/

section Periods

variable {r : Rule}

theorem Rule.selectsDay_of_nil_nil (hmd : r.byMonthDay = []) (hbd : r.byDay = []) (day : Nat)
    (scope : Date × Date) (d : Date) : r.SelectsDay day scope d ↔ d.day = day := by
  simp [Rule.SelectsDay, hmd, hbd]

theorem Rule.selectsDay_of_nil_days (hmd : r.byMonthDay = []) (hbd : r.byDay ≠ []) (day : Nat)
    (scope : Date × Date) (d : Date) :
    r.SelectsDay day scope d ↔ ∃ e ∈ r.byDay, e.Selects scope.1 scope.2 d := by
  simp [Rule.SelectsDay, hmd, hbd]

theorem inCountRange_of_small {x : Int} (h0 : -(2 ^ 40) ≤ x) (h1 : x ≤ 2 ^ 40) :
    inCountRange x = true := by
  simp only [inCountRange, countMin, countMax, Bool.and_eq_true]
  exact ⟨decide_eq_true (by omega), decide_eq_true (by omega)⟩

theorem period_of_dates {x : Except CalendarError (Option (List Date))} {D : Date → Prop}
    (hx : ∃ ds, x = .ok (some ds) ∧ ∀ d, d ∈ ds ↔ D d) (start : WallTime) (times : List Nat)
    (i : Int) :
    ∃ ds, (x >>= fun dates? => pure (dates?.map fun dates =>
      (⟨start, combineDates dates times, i⟩ : Period))) =
        .ok (some ⟨start, combineDates ds times, i⟩) ∧ ∀ d, d ∈ ds ↔ D d := by
  obtain ⟨ds, rfl, hmem⟩ := hx
  exact ⟨ds, rfl, hmem⟩

/-- The days from which a yearly rule counts the positions of its weekdays, for a date `d`: the
month of `d` when the rule names months, its year otherwise. -/
def Rule.yearlyScope (r : Rule) (d : Date) : Date × Date :=
  if r.byMonth = [] then yearEnds d.year else monthEnds d.year d.month

/-- The dates of year `Y` that a yearly rule anchored at `n` selects. -/
def Rule.YearlyDate (r : Rule) (n : WallTime) (Y : Int) (d : Date) : Prop :=
  d.Valid ∧ d.year = Y ∧ (r.byMonth = [] ∨ d.month ∈ r.byMonth) ∧
    r.SelectsDay n.date.day (r.yearlyScope d) d ∧
    (r.byMonthDay = [] → r.byDay = [] → r.byMonth = [] → d.month = n.date.month)

/-- The dates of month `M` of year `Y` that a monthly rule anchored at `n` selects. -/
def Rule.MonthlyDate (r : Rule) (n : WallTime) (Y : Int) (M : Nat) (d : Date) : Prop :=
  d.Valid ∧ d.year = Y ∧ d.month = M ∧ (r.byMonth = [] ∨ M ∈ r.byMonth) ∧
    r.SelectsDay n.date.day (monthEnds Y M) d

theorem Rule.expandYearly_selected (hmonths : ∀ m ∈ r.byMonth, 1 ≤ m ∧ m ≤ 12)
    {n : WallTime} (hn : minYear ≤ n.date.year ∧ n.date.year ≤ maxYear) {k : Int}
    (hY : minYear < n.date.year + k * r.interval ∧ n.date.year + k * r.interval < maxYear) :
    ∃ ds, r.expandYearly n k = .ok (some ⟨(⟨n.date.year + k * r.interval, 1, 1⟩ : Date).midnight,
        combineDates ds (r.timesOfDay n), k + 1⟩) ∧
      ∀ d, d ∈ ds ↔ r.YearlyDate n (n.date.year + k * r.interval) d := by
  obtain ⟨hY0, hY1⟩ := hY
  have hoff : inCountRange (k * r.interval) = true := by
    unfold minYear maxYear at *
    exact inCountRange_of_small (by omega) (by omega)
  generalize hYdef : n.date.year + k * r.interval = Y at hY0 hY1
  have hjan : Date.ofYmd? Y 1 1 = some ⟨Y, 1, 1⟩ :=
    Date.ofYmd?_first hY0.le hY1.le le_rfl (by omega)
  have hdec : Date.ofYmd? Y 12 31 = some ⟨Y, 12, 31⟩ :=
    Date.ofYmd?_eq_some_iff.2 ⟨by simp [Date.Valid, monthLength], rfl, hY0.le, hY1.le⟩
  unfold Rule.expandYearly
  simp only [hoff, Bool.not_true, Bool.false_eq_true, if_false, hYdef, hjan, hdec]
  by_cases hmd : r.byMonthDay = []
  · by_cases hbd : r.byDay = []
    · by_cases hbm : r.byMonth = []
      · -- neither months, month days nor weekdays: the anchor's day and month
        simp only [hmd, hbd, hbm, List.isEmpty_nil, Bool.not_true, Bool.false_eq_true, if_false]
        refine period_of_dates ⟨_, rfl, fun d => ?_⟩ _ _ _
        rw [Option.mem_toList, Date.ofYmd?_eq_some_iff, Rule.YearlyDate,
          r.selectsDay_of_nil_nil hmd hbd]
        constructor
        · rintro ⟨hv, rfl, -, -⟩
          exact ⟨hv, rfl, .inl hbm, rfl, fun _ _ _ => rfl⟩
        · rintro ⟨hv, hy, -, hday, hm⟩
          obtain ⟨yd, md, dd⟩ := d
          dsimp only at hy hday hm
          subst hy hday
          obtain rfl := hm hmd hbd hbm
          exact ⟨hv, rfl, hY0.le, hY1.le⟩
      · -- the anchor's day in each month named
        have hbm' : r.byMonth.isEmpty = false := by simpa using hbm
        simp only [hmd, hbd, hbm', List.isEmpty_nil, Bool.not_true, Bool.not_false,
          Bool.false_eq_true, if_false, if_true]
        refine period_of_dates ⟨_, rfl, fun d => ?_⟩ _ _ _
        rw [List.mem_filterMap, Rule.YearlyDate, r.selectsDay_of_nil_nil hmd hbd]
        simp only [Date.ofYmd?_eq_some_iff]
        constructor
        · rintro ⟨m, hm, hv, rfl, -, -⟩
          exact ⟨hv, rfl, .inr hm, rfl, fun _ _ h => absurd h hbm⟩
        · rintro ⟨hv, hy, hm, hday, -⟩
          obtain ⟨yd, md, dd⟩ := d
          dsimp only at hy hday hm
          subst hy hday
          exact ⟨md, hm.resolve_left hbm, hv, rfl, hY0.le, hY1.le⟩
    · have hbd' : r.byDay.isEmpty = false := by simpa using hbd
      by_cases hbm : r.byMonth = []
      · -- the weekdays of the year, positions counted in the year
        simp only [hmd, hbd', hbm, List.isEmpty_nil, Bool.not_true, Bool.not_false,
          Bool.false_eq_true, if_false, if_true]
        obtain ⟨ds, hds, hmem⟩ := r.expandByDay_spec (Date.Inner.year hY0 hY1)
        refine period_of_dates ⟨ds, by rw [hds]; rfl, fun d => ?_⟩ _ _ _
        rw [hmem, Rule.YearlyDate, r.selectsDay_of_nil_days hmd hbd, Rule.yearlyScope, if_pos hbm]
        constructor
        · rintro ⟨hv, hlo, hhi, he⟩
          have hy := (Date.year_eq_iff hv).2 ⟨hlo, hhi⟩
          subst hy
          exact ⟨hv, rfl, .inl hbm, he, fun _ h => absurd h hbd⟩
        · rintro ⟨hv, rfl, -, he, -⟩
          exact ⟨hv, ((Date.year_eq_iff hv).1 rfl).1, ((Date.year_eq_iff hv).1 rfl).2, he⟩
      · -- the weekdays of each month named, positions counted in the month
        have hbm' : r.byMonth.isEmpty = false := by simpa using hbm
        simp only [hmd, hbd', hbm', List.isEmpty_nil, Bool.not_true, Bool.not_false,
          Bool.false_eq_true, if_false, if_true]
        refine period_of_dates ((concatMonths_spec (S := fun m d => d.Valid ∧
          d.year = Y ∧ d.month = m ∧ ∃ e ∈ r.byDay, e.Selects (monthEnds Y m).1 (monthEnds Y m).2 d)
          fun m hm => ?_).imp fun ds h => ⟨h.1, fun d => ?_⟩) _ _ _
        · obtain ⟨h1, h2⟩ := hmonths m hm
          obtain ⟨ds, hds, hmem⟩ := r.monthDates_spec hY0 hY1 h1 h2 n.date.day
            (⟨Y, 1, 1⟩, ⟨Y, 12, 31⟩) (Date.Inner.year hY0 hY1)
          refine ⟨ds, hds, fun d => ?_⟩
          rw [hmem, if_pos hmd, r.selectsDay_of_nil_days hmd hbd]
        · rw [h.2, Rule.YearlyDate, r.selectsDay_of_nil_days hmd hbd, Rule.yearlyScope, if_neg hbm]
          constructor
          · rintro ⟨m, hm, hv, rfl, rfl, he⟩
            exact ⟨hv, rfl, .inr hm, he, fun _ h => absurd h hbd⟩
          · rintro ⟨hv, rfl, hm, he, -⟩
            exact ⟨d.month, hm.resolve_left hbm, hv, rfl, rfl, he⟩
  · -- the month days of each month named, or of every month
    have hmd' : r.byMonthDay.isEmpty = false := by simpa using hmd
    simp only [hmd', Bool.not_false, if_true]
    refine period_of_dates ((concatMonths_spec (S := fun m d => d.Valid ∧ d.year = Y ∧
      d.month = m ∧ (r.byMonth = [] ∨ m ∈ r.byMonth) ∧ r.SelectsDay n.date.day (r.yearlyScope d) d)
      fun m hm => ?_).imp fun ds h => ⟨h.1, fun d => ?_⟩) _ _ _
    · -- every month of the list is a month of the calendar
      have hm' : 1 ≤ m ∧ m ≤ 12 ∧ (r.byMonth = [] ∨ m ∈ r.byMonth) := by
        by_cases hbm : r.byMonth = []
        · simp only [hbm, List.isEmpty_nil, if_true, List.mem_range'_1] at hm
          exact ⟨hm.1, by omega, .inl hbm⟩
        · have hbm' : r.byMonth.isEmpty = false := by simpa using hbm
          simp only [hbm', Bool.false_eq_true, if_false] at hm
          exact ⟨(hmonths m hm).1, (hmonths m hm).2, .inr hm⟩
      obtain ⟨h1, h2, hnamed⟩ := hm'
      -- positions are counted in the year or in the month, whichever is the date's scope
      have hdates : ∀ s : Date × Date, Date.Inner s.1 s.2 →
          (∀ d : Date, d.year = Y → d.month = m → s = r.yearlyScope d) →
          ∃ ds, r.monthDates Y m n.date.day s = .ok (some ds) ∧ ∀ d, d ∈ ds ↔ d.Valid ∧
            d.year = Y ∧ d.month = m ∧ (r.byMonth = [] ∨ m ∈ r.byMonth) ∧
            r.SelectsDay n.date.day (r.yearlyScope d) d := by
        intro s hinner hsd
        obtain ⟨ds, hds, hmem⟩ := r.monthDates_spec hY0 hY1 h1 h2 n.date.day s hinner
        refine ⟨ds, hds, fun d => ?_⟩
        rw [hmem, if_neg hmd]
        constructor
        · rintro ⟨hv, hy, hm, hsel⟩
          exact ⟨hv, hy, hm, hnamed, hsd d hy hm ▸ hsel⟩
        · rintro ⟨hv, hy, hm, -, hsel⟩
          exact ⟨hv, hy, hm, (hsd d hy hm).symm ▸ hsel⟩
      by_cases hbm : r.byMonth = []
      · have hbm' : r.byMonth.isEmpty = true := by simp [hbm]
        simp only [hbm', if_true]
        exact hdates (⟨Y, 1, 1⟩, ⟨Y, 12, 31⟩) (Date.Inner.year hY0 hY1) fun d hy _ => by
          simp [Rule.yearlyScope, hbm, yearEnds, hy]
      · have hbm' : r.byMonth.isEmpty = false := by simpa using hbm
        simp only [hbm', Bool.false_eq_true, if_false, firstOfMonth_eq hY0.le hY1.le h1 h2,
          lastOfMonth_eq hY0.le hY1 h1 h2]
        exact hdates (monthEnds Y m) (Date.Inner.month hY0 hY1 h1 h2) fun d hy hm => by
          simp [Rule.yearlyScope, hbm, monthEnds, hy, hm]
    · rw [h.2, Rule.YearlyDate]
      constructor
      · rintro ⟨m, -, hv, hy, rfl, hnamed, hsel⟩
        exact ⟨hv, hy, hnamed, hsel, fun h => absurd h hmd⟩
      · rintro ⟨hv, hy, hnamed, hsel, -⟩
        refine ⟨d.month, ?_, hv, hy, rfl, hnamed, hsel⟩
        -- the month of the date is among those the period walks
        by_cases hbm : r.byMonth = []
        · simp only [hbm, List.isEmpty_nil, if_true, List.mem_range'_1]
          exact ⟨hv.1, by have := hv.2.1; omega⟩
        · have hbm' : r.byMonth.isEmpty = false := by simpa using hbm
          simp only [hbm', Bool.false_eq_true, if_false]
          exact hnamed.resolve_left hbm

/-- A yearly period whose year lies strictly inside the calendar gives every date of the year the
rule selects at every time of day of the rule, in ascending order and without repeats. -/
theorem Rule.expandYearly_candidates (hc : r.ClockSets) (hmonths : ∀ m ∈ r.byMonth, 1 ≤ m ∧ m ≤ 12)
    {n : WallTime} (hn : minYear ≤ n.date.year ∧ n.date.year ≤ maxYear) {k : Int}
    (hY : minYear < n.date.year + k * r.interval ∧ n.date.year + k * r.interval < maxYear) :
    ∃ p, r.expandYearly n k = .ok (some p) ∧ p.candidates.Pairwise (· < ·) ∧
      ∀ c, c ∈ p.candidates ↔ ∃ d, r.YearlyDate n (n.date.year + k * r.interval) d ∧
        ∃ s ∈ r.timesOfDay n, c = WallTime.ofDays d.toDays s := by
  obtain ⟨ds, hp, hmem⟩ := Rule.expandYearly_selected hmonths hn hY
  exact ⟨_, hp, combineDates_selected hmem hc n⟩

/-- Period 54 of a rule for the fourth Thursday of November anchored at the epoch: the year 2024. -/
theorem Rule.expandYearly_candidates_thanksgiving :
    ∃ p, Rule.expandYearly ⟨.yearly, 1, [⟨.thu, some 4⟩], [11], [], [], [], [], .mon, .unbounded⟩
        ⟨0⟩ 54 = .ok (some p) ∧ p.candidates.Pairwise (· < ·) ∧
      ∀ c, c ∈ p.candidates ↔ ∃ d,
        Rule.YearlyDate ⟨.yearly, 1, [⟨.thu, some 4⟩], [11], [], [], [], [], .mon, .unbounded⟩ ⟨0⟩
          ((⟨0⟩ : WallTime).date.year + 54 * 1) d ∧
        ∃ s ∈ Rule.timesOfDay ⟨.yearly, 1, [⟨.thu, some 4⟩], [11], [], [], [], [], .mon, .unbounded⟩
          ⟨0⟩, c = WallTime.ofDays d.toDays s :=
  Rule.expandYearly_candidates ⟨.nil, .nil, .nil⟩ (by decide) (by decide) (by decide)

theorem Rule.expandMonthly_selected {n : WallTime}
    (hn : minYear ≤ n.date.year ∧ n.date.year ≤ maxYear) {k Y : Int} {M : Nat}
    (hadv : advanceMonth n.date.year n.date.month (k * r.interval) = some (Y, M))
    (hY : minYear < Y ∧ Y < maxYear) :
    ∃ ds, r.expandMonthly n k = .ok (some ⟨(⟨Y, M, 1⟩ : Date).midnight,
        combineDates ds (r.timesOfDay n), k + 1⟩) ∧ ∀ d, d ∈ ds ↔ r.MonthlyDate n Y M d := by
  obtain ⟨hY0, hY1⟩ := hY
  obtain ⟨hy, hm⟩ := advanceMonth_eq_some hadv
  have hM : 1 ≤ M ∧ M ≤ 12 := by omega
  -- the month reached lies in the calendar, so the months moved fit a count
  have hoff : inCountRange (k * r.interval) = true := by
    obtain ⟨hn1, hn2, -, -⟩ := n.date_valid
    unfold minYear maxYear at *
    exact inCountRange_of_small (by omega) (by omega)
  unfold Rule.expandMonthly
  simp only [hoff, Bool.not_true, Bool.false_eq_true, if_false, hadv,
    firstOfMonth_eq hY0.le hY1.le hM.1 hM.2, lastOfMonth_eq hY0.le hY1 hM.1 hM.2]
  by_cases hkept : (r.byMonth.isEmpty || r.byMonth.contains M) = true
  · have hnamed : r.byMonth = [] ∨ M ∈ r.byMonth := by simpa using hkept
    obtain ⟨ds, hds, hmem⟩ := r.monthDates_spec hY0 hY1 hM.1 hM.2 n.date.day
      (monthEnds Y M) (Date.Inner.month hY0 hY1 hM.1 hM.2)
    simp only [hkept, if_true]
    refine period_of_dates ⟨ds, hds, fun d => ?_⟩ _ _ _
    rw [hmem, ite_self, Rule.MonthlyDate]
    constructor
    · rintro ⟨hv, hy, hm, hsel⟩
      exact ⟨hv, hy, hm, hnamed, hsel⟩
    · rintro ⟨hv, hy, hm, -, hsel⟩
      exact ⟨hv, hy, hm, hsel⟩
  · have hnamed : ¬(r.byMonth = [] ∨ M ∈ r.byMonth) := by simpa using hkept
    simp only [hkept, Bool.false_eq_true, if_false]
    refine period_of_dates ⟨[], rfl, fun d => ?_⟩ _ _ _
    simp only [List.not_mem_nil, false_iff, Rule.MonthlyDate]
    exact fun ⟨_, _, _, h, _⟩ => hnamed h

/-- A monthly period strictly inside the calendar gives every date the rule selects at every
time of day of the rule, ascending and without repeats, or nothing when its month is not kept. -/
theorem Rule.expandMonthly_candidates (hc : r.ClockSets) {n : WallTime}
    (hn : minYear ≤ n.date.year ∧ n.date.year ≤ maxYear) {k Y : Int} {M : Nat}
    (hadv : advanceMonth n.date.year n.date.month (k * r.interval) = some (Y, M))
    (hY : minYear < Y ∧ Y < maxYear) :
    ∃ p, r.expandMonthly n k = .ok (some p) ∧ p.candidates.Pairwise (· < ·) ∧
      ∀ c, c ∈ p.candidates ↔ ∃ d, r.MonthlyDate n Y M d ∧
        ∃ s ∈ r.timesOfDay n, c = WallTime.ofDays d.toDays s := by
  obtain ⟨ds, hp, hmem⟩ := Rule.expandMonthly_selected hn hadv hY
  exact ⟨_, hp, combineDates_selected hmem hc n⟩

/-- Period 325 of a two-monthly rule for the last Friday of March and September at 9:30,
anchored at the epoch: March 2024. -/
theorem Rule.expandMonthly_candidates_last_friday :
    ∃ p, Rule.expandMonthly ⟨.monthly, 2, [⟨.fri, some (-1)⟩], [3, 9], [], [9], [30], [0], .mon,
        .unbounded⟩ ⟨0⟩ 325 = .ok (some p) ∧ p.candidates.Pairwise (· < ·) ∧
      ∀ c, c ∈ p.candidates ↔ ∃ d,
        Rule.MonthlyDate ⟨.monthly, 2, [⟨.fri, some (-1)⟩], [3, 9], [], [9], [30], [0], .mon,
          .unbounded⟩ ⟨0⟩ 2024 3 d ∧
        ∃ s ∈ Rule.timesOfDay ⟨.monthly, 2, [⟨.fri, some (-1)⟩], [3, 9], [], [9], [30], [0], .mon,
          .unbounded⟩ ⟨0⟩, c = WallTime.ofDays d.toDays s :=
  Rule.expandMonthly_candidates ⟨by decide, by decide, by decide⟩ (by decide) (by decide) (by decide)

end Periods

end Cadence
