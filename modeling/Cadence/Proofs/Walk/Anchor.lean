import Cadence.Proofs.Walk.Truncation
/-!
# The anchor of a walk

Every value a walk gives lies at or after its anchor on the zone's wall clock
(`Walk.anchor_le_given`): a candidate before the anchor is dropped, and resolving a wall time
moves it only later on the clock. Read as instants the bound fails. On the night the clocks fall
back, the anchor may be the second of two instants with one wall time, and the walk gives the
first.

A rule with none of the BY parts has one candidate in its first period: the anchor's date at the
anchor's time of day, rebuilt from its hour, minute and second unless the rule steps by minutes or
seconds (`Rule.expand_zero_candidates`). So the walk gives the anchor first
(`Walk.take_start_anchor`) when the anchor is a whole second, or the rule steps by minutes or
seconds, and is the instant its own wall time resolves to. The rule's count must not be zero,
its end must not come before the anchor and must show within the calendar, and its first period
must lie within the calendar.
-/
namespace Cadence

/-! ## Dates and times the first period is built from -/

namespace Date

theorem eq_of_toDays_eq {d e : Date} (hd : d.Valid) (he : e.Valid) (h : d.toDays = e.toDays) :
    d = e := by
  rw [← ofDays_toDays hd, ← ofDays_toDays he, h]

theorem valid_of_addDays? {d e : Date} {n : Int} (h : d.addDays? n = some e) : e.Valid := by
  unfold addDays? ofDays? at h
  split at h
  · cases h
    exact ofDays_valid _
  · cases h

theorem addDays?_zero {d e : Date} (hd : d.Valid) (h : d.addDays? 0 = some e) : e = d :=
  eq_of_toDays_eq (valid_of_addDays? h) hd (by rw [toDays_addDays? h, add_zero])

theorem ofYmd?_of_year {d e : Date} {m k : Nat} (hd : d.Valid) (h : ofYmd? d.year m k = some e) :
    ofYmd? d.year d.month d.day = some d := by
  unfold ofYmd? at h
  split at h
  · rename_i hy
    exact ofYmd?_of_valid hd hy.1 hy.2.1
  · cases h

end Date

namespace WallTime

theorem date_valid (x : WallTime) : x.date.Valid := Date.ofDays_valid _

theorem addSeconds?_zero {x c : WallTime} (h : x.addSeconds? 0 = some c) : c = x := by
  have hc := nanos_addSeconds? h
  cases c
  cases x
  simp_all

theorem ofDays_clock {x : WallTime} (hx : x.nanos % nanosPerSecond = 0) :
    WallTime.ofDays x.date.toDays (x.hour * 3600 + x.minute * 60 + x.second) = x := by
  conv => rhs; rw [← ofDate_clock hx]
  simp only [WallTime.ofDays, ofDate]
  push_cast
  ring_nf

end WallTime

theorem combineDates_single (d : Date) (times : List Nat) :
    combineDates [d] times = times.map (WallTime.ofDays d.toDays) := by
  simp [combineDates, sortedDays, insertSorted]

theorem inCountRange_zero : inCountRange 0 = true := by decide

/-! ## The first period of a rule with no BY parts -/

/-- A rule with none of the BY parts: each period has one candidate, at the anchor's time of
day on the anchor's day of the period. -/
structure Rule.NoByParts (r : Rule) : Prop where
  byDay : r.byDay = []
  byMonth : r.byMonth = []
  byMonthDay : r.byMonthDay = []
  byHour : r.byHour = []
  byMinute : r.byMinute = []
  bySecond : r.bySecond = []

namespace Rule

variable {r : Rule} {x : WallTime} {p : Period}

theorem NoByParts.timesOfDay (hno : r.NoByParts) (x : WallTime) :
    r.timesOfDay x = [x.hour * 3600 + x.minute * 60 + x.second] := by
  simp [Rule.timesOfDay, valuesOr, clockSeconds?, hno.byHour, hno.byMinute, hno.bySecond,
    x.hour_lt, x.minute_lt, x.second_lt]

theorem NoByParts.dayMatches (hno : r.NoByParts) (d : Date) : r.dayMatches d = true := by
  simp [Rule.dayMatches, hno.byMonth, hno.byMonthDay, hno.byDay]

theorem expandYearly_zero (hno : r.NoByParts) (h : r.expandYearly x 0 = .ok (some p)) :
    p.candidates = combineDates [x.date] (r.timesOfDay x) := by
  unfold Rule.expandYearly at h
  simp only [Int.zero_mul, add_zero, inCountRange_zero, Bool.not_true, Bool.false_eq_true,
    if_false, hno.byMonthDay, hno.byDay, hno.byMonth, List.isEmpty_nil] at h
  split at h
  · rename_i janFirst hjan
    split at h
    · cases h
      rw [Date.ofYmd?_of_year x.date_valid hjan]
      rfl
    · cases h
  · cases h

theorem expandMonthly_zero (hno : r.NoByParts) (h : r.expandMonthly x 0 = .ok (some p)) :
    p.candidates = combineDates [x.date] (r.timesOfDay x) := by
  unfold Rule.expandMonthly at h
  simp only [Int.zero_mul, inCountRange_zero, Bool.not_true, Bool.false_eq_true, if_false,
    hno.byMonth, List.isEmpty_nil, Bool.true_or, if_true] at h
  split at h
  · rename_i y m hadv
    -- moving by no months stays in the anchor's month
    obtain ⟨hy, hm⟩ := advanceMonth_eq_some hadv
    obtain ⟨hm1, hm2, -, -⟩ := x.date_valid
    obtain ⟨rfl, rfl⟩ : y = x.date.year ∧ m = x.date.month := by omega
    split at h
    · rename_i first hfirst
      split at h
      · rename_i last hlast
        simp only [Rule.monthDates, hfirst, hlast, hno.byMonthDay, hno.byDay, List.isEmpty_nil,
          Bool.not_true, Bool.false_eq_true, if_false] at h
        cases h
        rw [Date.ofYmd?_of_year x.date_valid hfirst]
        rfl
      · cases h
    · cases h
  · cases h

theorem expandWeekly_zero (hno : r.NoByParts) (h : r.expandWeekly x 0 = some p) :
    p.candidates = combineDates [x.date] (r.timesOfDay x) := by
  unfold Rule.expandWeekly at h
  simp only [Int.zero_mul, inCountRange_zero, Bool.not_true, Bool.false_eq_true, if_false,
    hno.byDay, List.isEmpty_nil, if_true] at h
  obtain ⟨first, hfirst, h⟩ := Option.bind_eq_some_iff.1 h
  obtain ⟨weekStart, hweek, h⟩ := Option.bind_eq_some_iff.1 h
  obtain ⟨dates, hdates, h⟩ := Option.bind_eq_some_iff.1 h
  cases h
  -- the anchor's weekday, counted from the first day of its week, is the anchor's date
  obtain ⟨d, hd, hdates⟩ := Option.bind_eq_some_iff.1 hdates
  simp only [Rule.weekDates, hno.byMonth, List.isEmpty_nil, Bool.true_or, if_true,
    Option.bind_eq_bind, Option.bind_some] at hdates
  cases hdates
  have hday : d.toDays = x.date.toDays := by
    rw [Date.toDays_addDays? hd, Date.toDays_addDays? hweek, Date.toDays_addDays? hfirst]
    omega
  rw [Date.eq_of_toDays_eq (Date.valid_of_addDays? hd) x.date_valid hday]

theorem expandDaily_zero (hno : r.NoByParts) (h : r.expandDaily x 0 = some p) :
    p.candidates = combineDates [x.date] (r.timesOfDay x) := by
  unfold Rule.expandDaily at h
  simp only [Int.zero_mul, inCountRange_zero, Bool.not_true, Bool.false_eq_true, if_false] at h
  obtain ⟨date, hdate, h⟩ := Option.bind_eq_some_iff.1 h
  cases h
  rw [Date.addDays?_zero x.date_valid hdate, hno.dayMatches, if_pos rfl]

theorem expandIntraday_zero (hno : r.NoByParts)
    (hsec : x.nanos % nanosPerSecond = 0 ∨ r.frequency = .minutely ∨ r.frequency = .secondly)
    (h : r.expandIntraday x 0 = some p) : p.candidates = [x] := by
  unfold Rule.expandIntraday at h
  simp only [Int.zero_mul, inCountRange_zero, Bool.not_true, Bool.false_eq_true, if_false,
    hno.dayMatches, hno.byHour, hno.byMinute, hno.bySecond, List.isEmpty_nil, Bool.false_and,
    valuesOr, if_true, show inCountRange (0 + 1) = true by decide] at h
  -- the step of period zero is the anchor itself, which lies in the calendar
  obtain ⟨current, hcur⟩ : ∃ c, x.addSeconds? 0 = some c := by
    cases hc : x.addSeconds? 0 with
    | none => simp [hc] at h
    | some c => exact ⟨c, rfl⟩
  obtain rfl := WallTime.addSeconds?_zero hcur
  simp only [hcur, Option.bind_eq_bind, Option.bind_some] at h
  split at h
  · -- hourly: the anchor's minute and second of its hour, on a whole second
    rename_i hf
    cases h
    have hx := hsec.resolve_right (by rw [hf]; decide)
    simp only [List.flatMap_cons, List.flatMap_nil, List.map_cons, List.map_nil,
      List.append_nil, List.cons.injEq, and_true]
    conv => rhs; rw [← WallTime.ofDays_clock hx]
    simp only [WallTime.ofDays]
    push_cast
    ring_nf
  · -- minutely: the anchor with its own second
    cases h
    simp [WallTime.withSecond]
  · cases h
    rfl

/-- The first period of a rule with no BY parts holds one candidate, the anchor itself, when the
anchor is a whole second or the rule steps by minutes or seconds. -/
theorem expand_zero_candidates (hno : r.NoByParts)
    (hsec : x.nanos % nanosPerSecond = 0 ∨ r.frequency = .minutely ∨ r.frequency = .secondly)
    (h : r.expand x 0 = .ok (some p)) : p.candidates = [x] := by
  -- a coarser frequency rebuilds the anchor from its date and its time of day
  have hdates : p.candidates = combineDates [x.date] (r.timesOfDay x) →
      r.frequency ≠ .minutely → r.frequency ≠ .secondly → p.candidates = [x] := by
    intro hc h1 h2
    rw [hc, hno.timesOfDay, combineDates_single, List.map_singleton,
      WallTime.ofDays_clock (by tauto)]
  unfold Rule.expand at h
  split at h <;> rename_i hf
  · exact hdates (expandYearly_zero hno h) (by rw [hf]; decide) (by rw [hf]; decide)
  · exact hdates (expandMonthly_zero hno h) (by rw [hf]; decide) (by rw [hf]; decide)
  · exact hdates (expandWeekly_zero hno (Except.ok.inj h)) (by rw [hf]; decide)
      (by rw [hf]; decide)
  · exact hdates (expandDaily_zero hno (Except.ok.inj h)) (by rw [hf]; decide) (by rw [hf]; decide)
  · exact expandIntraday_zero hno hsec (Except.ok.inj h)

end Rule

theorem TimeZone.Regular.date_le_of_resolve {z : TimeZone} (hz : z.Regular) {a u : ZonedTime}
    (hres : z.resolve a.wall = some a) (hu : z.Shows u) (hau : a.instant ≤ u.instant) :
    a.wall.date.toDays ≤ u.wall.date.toDays + 1 := by
  have hle : a.wall.nanos ≤ u.wall.nanos + nanosPerDay := by
    by_contra hgt
    have hlt := hz.lt_resolve hu (by omega) hres
    exact absurd hau (Int.not_le.2 hlt)
  rw [WallTime.toDays_date, WallTime.toDays_date]
  simp only [nanosPerDay, secondsPerDay, nanosPerSecond] at hle ⊢
  omega

namespace Walk

/-! ## No value before the anchor on the wall clock -/

theorem absorb_buffer_forall (P : ZonedTime → Prop) {w : Walk} {cs : List WallTime}
    (hbuf : ∀ t ∈ w.buffer.toList, P t)
    (hcand : ∀ c ∈ cs, ¬ c < w.anchor → ∀ t, w.zone.resolve c = some t → P t) :
    ∀ t ∈ (w.absorb cs).buffer.toList, P t := by
  refine (absorb_keeps (fun v => v.anchor = w.anchor ∧ v.zone = w.zone ∧
    ∀ t ∈ v.buffer.toList, P t) cs id ?_ ⟨rfl, rfl, hbuf⟩).2.2
  -- the walk keeps its anchor and zone, so a kept value is one of the candidates resolved
  rintro v c t ⟨hanchor, hzone, hv⟩ hc hca hres - r f
  refine ⟨hanchor, hzone, fun u hu => ?_⟩
  rw [Array.toList_push, List.mem_append, List.mem_singleton] at hu
  rcases hu with hu | rfl
  · exact hv u hu
  · exact hcand c hc (hanchor ▸ hca) _ (hzone ▸ hres)

/-- A walk anchored at `x` on the wall clock whose values found so far all lie at or after `x`
on that clock. -/
structure Above (x : WallTime) (w : Walk) : Prop where
  anchor_eq : w.anchor = x
  buffer_ge : ∀ t ∈ w.buffer.toList, x ≤ t.wall

section Above

variable {x : WallTime} {w w' : Walk}

theorem above_start (r : Rule) (z : TimeZone) (a : ZonedTime) : Above a.wall (start r z a) :=
  ⟨rfl, by simp [start]⟩

theorem Above.finish (hw : Above x w) : Above x { w with finished := true } :=
  ⟨hw.anchor_eq, hw.buffer_ge⟩

theorem Above.absorb (hw : Above x w) (p : Period) : Above x (w.absorbPeriod p) := by
  have hanchor := (absorb_frame ({ w with period := p.next, buffer := #[], pos := 0 } : Walk)
    p.candidates).2.2.1
  refine ⟨hanchor.trans hw.anchor_eq, absorb_buffer_forall _ (by simp) ?_⟩
  intro c _ hc t ht
  have hle := TimeZone.le_wall_of_resolve ht
  show x.nanos ≤ t.wall.nanos
  rw [← hw.anchor_eq]
  exact le_trans (Int.not_lt.1 hc) hle

theorem Above.fill {fuel : Nat} (hw : Above x w) (h : w.fill fuel = .ok w') : Above x w' :=
  fill_keeps (Above x) Above.finish (fun hw _ => hw.absorb _) hw h

theorem Above.step_of_lt {a : ZonedTime} (hw : Above x w) (hlt : w.pos < w.buffer.size)
    (h : next? w = .ok (some (a, w'))) : x ≤ a.wall ∧ Above x w' := by
  rw [next?_of_lt hlt] at h
  cases h
  exact ⟨hw.buffer_ge _ (Array.getElem_mem_toList hlt), hw.anchor_eq, hw.buffer_ge⟩

theorem Above.step {a : ZonedTime} (hw : Above x w) (h : next? w = .ok (some (a, w'))) :
    x ≤ a.wall ∧ Above x w' :=
  step_keeps (Above x) (fun hw hv => hw.fill hv) (fun hw hlt h => hw.step_of_lt hlt h) hw h

end Above

/-- Every value a walk gives lies at or after its anchor on the zone's wall clock. -/
theorem anchor_le_given (r : Rule) (z : TimeZone) (a : ZonedTime) (n : Nat) :
    ∀ t ∈ Source.given (start r z a) n, a.wall ≤ t.wall :=
  Source.forall_given (Above a.wall) (fun t => a.wall ≤ t.wall)
    (fun _ _ _ hw h => hw.step h) n _ (above_start r z a)

/-! ## The anchor first -/

theorem absorb_first {w : Walk} {c : WallTime} {t : ZonedTime} (hc : ¬ c < w.anchor)
    (hres : w.zone.resolve c = some t) (hend : ∀ u ∈ w.upTo, t.instant ≤ u.instant)
    (hlast : w.last = none) (hr : w.remaining ≠ some 0) :
    (w.absorb [c]).buffer = w.buffer.push t := by
  have hwithin : ¬ (w.upTo.map fun u => decide (t.instant > u.instant)) = some true := by
    cases hu : w.upTo with
    | none => simp
    | some u =>
      have := hend u hu
      simp only [Option.map_some, Option.some.injEq, decide_eq_true_eq, gt_iff_lt]
      exact Int.not_lt.2 this
  simp only [absorb, if_neg hc, hres, if_neg hwithin, hlast, Option.map_none, reduceCtorEq,
    if_false]
  cases hR : w.remaining with
  | none => rfl
  | some k =>
    cases k with
    | zero => exact absurd hR hr
    | succ k =>
      dsimp only
      split <;> rfl

theorem pastEnd_eq_false {w : Walk} {s : WallTime}
    (hu : ∀ u ∈ w.upTo, u.wall.inRange ∧ s.date.toDays ≤ u.wall.date.toDays + 1) :
    w.pastEnd s = .ok false := by
  unfold pastEnd
  split
  · rfl
  · rename_i u hw
    obtain ⟨hin, hle⟩ := hu u hw
    rw [if_neg (by simp [hin])]
    split
    · rename_i limit hlimit
      have hday := Date.toDays_addDays? hlimit
      have hnot : ¬ s.date > limit := by
        rw [gt_iff_lt, Date.lt_def]
        omega
      rw [decide_eq_false hnot]
      rfl
    · rfl

variable {r : Rule} {z : TimeZone} {a : ZonedTime}

/-- A rule with no BY parts gives first its anchor, the instant of its own wall time and a whole
second unless the rule steps by minutes or seconds, when its bound and first period allow. -/
theorem take_start_anchor (hz : z.Regular) (hno : r.NoByParts) (hcount : r.count? ≠ some 0)
    (hsec : a.wall.nanos % nanosPerSecond = 0 ∨ r.frequency = .minutely ∨
      r.frequency = .secondly)
    (hres : z.resolve a.wall = some a)
    (hend : ∀ u ∈ r.upTo?.bind (·.resolveUpper z), a.instant ≤ u.instant ∧ u.wall.inRange)
    {p : Period} (hp : r.expand a.wall 0 = .ok (some p)) :
    Source.take (start r z a) 1 = .ok [a] := by
  have hc := Rule.expand_zero_candidates hno hsec hp
  -- the period starts no later than the anchor's day, so no end at or after the anchor stops it
  have hday : p.start.date ≤ a.wall.date := Rule.expand_candidate_ge hp a.wall (by simp [hc])
  have hpast : (start r z a).pastEnd p.start = .ok false := by
    refine pastEnd_eq_false fun u hu => ⟨(hend u hu).2, ?_⟩
    obtain ⟨s, -, hs⟩ := Option.bind_eq_some_iff.1 hu
    have hafter := hz.date_le_of_resolve hres (hz.shows_resolveUpper hs) (hend u hu).1
    rw [Date.le_def] at hday
    omega
  have hbuf : ((start r z a).absorbPeriod p).buffer = #[a] := by
    rw [absorbPeriod, hc]
    exact absorb_first (Int.lt_irrefl _) hres (fun u hu => (hend u hu).1) rfl hcount
  have hfill : (start r z a).fill maxEmptyPeriods = .ok ((start r z a).absorbPeriod p) := by
    rw [show maxEmptyPeriods = 99999 + 1 from rfl,
      fill_succ_of_absorb (by simp [start]) (by simp [start, hcount]) hp hpast, hbuf]
    rfl
  have hpos : ((start r z a).absorbPeriod p).pos = 0 := (absorb_frame _ p.candidates).2.2.2.2.2
  rw [take_of_fill (by simp [start]) hfill 0,
    Source.take_succ_of_some (next?_of_lt (by simp [hbuf, hpos])), Source.take_zero]
  simp only [hbuf, hpos]
  rfl

/-- The anchor bounds a walk from below on the zone's wall clock, and a rule with no BY parts
gives the anchor first when it is its wall time's instant and the bound allows. -/
theorem anchor_least_and_first (r : Rule) (z : TimeZone) (a : ZonedTime) :
    (∀ n, ∀ t ∈ Source.given (start r z a) n, a.wall ≤ t.wall) ∧
      (z.Regular → r.NoByParts → r.count? ≠ some 0 →
        (a.wall.nanos % nanosPerSecond = 0 ∨ r.frequency = .minutely ∨
          r.frequency = .secondly) →
        z.resolve a.wall = some a →
        (∀ u ∈ r.upTo?.bind (·.resolveUpper z), a.instant ≤ u.instant ∧ u.wall.inRange) →
        ∀ p, r.expand a.wall 0 = .ok (some p) → Source.take (start r z a) 1 = .ok [a]) :=
  ⟨anchor_le_given r z a, fun hz hno hcount hsec hres hend _ hp =>
    take_start_anchor hz hno hcount hsec hres hend hp⟩

/-- A daily walk in a zone of offset zero, anchored at 09:00 on the first of January 2024,
gives the anchor first. -/
theorem anchor_least_and_first_daily :
    Source.take (start (Rule.every .daily) ⟨"UTC", ⟨⟨0, 0, "UTC"⟩, #[]⟩⟩
      ⟨⟨1704099600000000000⟩, 0⟩) 1 = .ok [⟨⟨1704099600000000000⟩, 0⟩] :=
  (anchor_least_and_first (Rule.every .daily) ⟨"UTC", ⟨⟨0, 0, "UTC"⟩, #[]⟩⟩
    ⟨⟨1704099600000000000⟩, 0⟩).2 (TimeZone.regular_of_fixed rfl (by decide) (by decide))
    ⟨rfl, rfl, rfl, rfl, rfl, rfl⟩ (by decide) (.inl (by decide)) (by decide +kernel)
    (by simp [Rule.upTo?, Rule.every]) _ rfl

/-- The first value is not always the anchor: an anchor in New York's repeated hour, a fraction of
a second, a count of zero, the calendar's last month and an end past the calendar. -/
theorem anchor_not_first :
    Source.given (start (Rule.every .daily)
        ⟨"EST5EDT", ⟨⟨-18000, 3600, "EDT"⟩, #[(1730613600, ⟨-18000, 0, "EST"⟩)]⟩⟩
        ⟨⟨1730615400000000000⟩, -18000⟩) 1 = [⟨⟨1730611800000000000⟩, -14400⟩] ∧
    Source.given (start (Rule.every .daily) ⟨"UTC", ⟨⟨0, 0, "UTC"⟩, #[]⟩⟩
        ⟨⟨1704099600500000000⟩, 0⟩) 1 = [⟨⟨1704186000000000000⟩, 0⟩] ∧
    Source.given (start { Rule.every .daily with bound := .count 0 }
        ⟨"UTC", ⟨⟨0, 0, "UTC"⟩, #[]⟩⟩ ⟨⟨1704099600000000000⟩, 0⟩) 1 = [] ∧
    Source.given (start (Rule.every .monthly) ⟨"UTC", ⟨⟨0, 0, "UTC"⟩, #[]⟩⟩
        ⟨⟨8210265408000000000000⟩, 0⟩) 1 = [] ∧
    Source.take (start { Rule.every .daily with bound := .upTo (.utc (Instant.last.toWall 0)) }
        ⟨"CET", ⟨⟨3600, 0, "CET"⟩, #[]⟩⟩ ⟨⟨1704099600000000000⟩, 3600⟩) 1 = .error .overflow := by
  decide +kernel

end Walk

end Cadence
