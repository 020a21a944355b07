import Cadence.Proofs.Walk.Ascending
import Cadence.Proofs.Stream.Union

/-!
# The walk of a rule in a zone of one offset

A walk drops a candidate when it lies before the anchor, when the zone does not resolve it, or
when it resolves no later than the last instant kept. When the candidates not before the anchor
resolve to ascending instants, the last test drops nothing (`keep_of_ascending`). In a zone of
one fixed offset every wall time not before the anchor resolves to the instant that offset
gives it, or to nothing past the end of the calendar (`TimeZone.resolve_of_fixed`); as the
candidates of a walk ascend, so do their instants, and the walk keeps each candidate not before
the anchor until the calendar ends (`keep_of_fixed`).

In any regular zone a bound only cuts the walk short: the walk of a rule gives a prefix of what
the same rule without its bound gives (`Walk.given_prefix_unbounded`), and that is the first of
the values it keeps of the candidates (`Walk.given_prefix_keep`).
-/
namespace Cadence

/-! ## Pulling values from a source -/

namespace Source

variable {σ α : Type} [Source σ α]

theorem take_length_given (s : σ) (n : Nat) : take s (given s n).length = .ok (given s n) := by
  induction n generalizing s with
  | zero => rfl
  | succ n ih =>
    cases h : next? s with
    | error e =>
      rw [given_succ_of_error h]
      rfl
    | ok o =>
      cases o with
      | none =>
        rw [given_succ_of_none h]
        rfl
      | some p =>
        obtain ⟨a, s'⟩ := p
        rw [given_succ_of_some h, List.length_cons, take_succ_of_some h, ih]
        rfl

theorem given_prefix_of_le (s : σ) {j n : Nat} (h : j ≤ n) : given s j <+: given s n := by
  induction j generalizing s n with
  | zero => exact List.nil_prefix
  | succ j ih =>
    obtain ⟨n, rfl⟩ : ∃ n', n = n' + 1 := ⟨n - 1, by omega⟩
    cases hs : next? s with
    | error e =>
      rw [given_succ_of_error hs]
      exact List.nil_prefix
    | ok o =>
      cases o with
      | none =>
        rw [given_succ_of_none hs]
        exact List.nil_prefix
      | some p =>
        obtain ⟨a, s'⟩ := p
        rw [given_succ_of_some hs, given_succ_of_some hs]
        exact List.cons_prefix_cons.2 ⟨rfl, ih s' (by omega)⟩

end Source

theorem cutAt_isPrefix (B : Option ZonedTime) (k : Option Nat) (xs : List ZonedTime) :
    cutAt B k xs <+: xs :=
  (List.take_prefix _ _).trans (List.takeWhile_prefix _)

/-! ## A zone of one offset -/

theorem WallTime.toInstant_le_toInstant {w w' : WallTime} (off : Int) (h : w ≤ w') :
    (w.toInstant off).nanos ≤ (w'.toInstant off).nanos := by
  have h' : w.nanos ≤ w'.nanos := h
  simp only [WallTime.toInstant]
  omega

theorem WallTime.toInstant_lt_toInstant {w w' : WallTime} (off : Int) (h : w < w') :
    w.toInstant off < w'.toInstant off := by
  have h' : w.nanos < w'.nanos := h
  simp only [Instant.lt_def, WallTime.toInstant]
  omega

theorem Zone.SpanSet.spansAtWall_of_single {s : Zone.SpanSet} (h : s.rest = #[]) (x : Int) :
    s.spansAtWall x = .single s.first := by
  unfold spansAtWall
  rw [Zone.bisect]
  simp [size, wallBounds, utcBounds, Zone.Bounds.compareTo, get_of_fixed h, h]

namespace TimeZone

variable {z : TimeZone}

theorem ofWall_of_fixed (hfix : z.spans.rest = #[]) (w : WallTime) :
    z.ofWall w = if (w.toInstant z.spans.first.total).inRange then
      .single ⟨w.toInstant z.spans.first.total, z.spans.first.total⟩ else .none := by
  unfold ofWall
  rw [Zone.SpanSet.spansAtWall_of_single hfix]
  simp only [Zone.Resolution.bind?]
  split_ifs <;> rfl

/-- In a zone of one offset, a wall time whose instant is not before the calendar resolves to
that instant when it lies in the calendar, and to nothing when it lies past the calendar's end. -/
theorem resolve_of_fixed (hfix : z.spans.rest = #[]) {w : WallTime}
    (hlo : Date.minDays * nanosPerDay ≤ (w.toInstant z.spans.first.total).nanos) :
    z.resolve w = if (w.toInstant z.spans.first.total).inRange then
      some ⟨w.toInstant z.spans.first.total, z.spans.first.total⟩ else none := by
  unfold resolve
  rw [ofWall_of_fixed hfix]
  split_ifs with hin
  · rfl
  · -- a wall time past the end of the calendar is still past it an hour later
    cases hlater : w.addSeconds? 3600 with
    | none => rfl
    | some later =>
      have hl := WallTime.nanos_addSeconds? hlater
      simp only [Option.bind_some]
      rw [ofWall_of_fixed hfix, if_neg]
      · rfl
      · have hmin : Date.minDays = -96465292 := by decide
        rw [Instant.inRange, nanosInRange_iff] at hin ⊢
        simp only [WallTime.toInstant, hmin, nanosPerDay, secondsPerDay, nanosPerSecond] at hin hlo hl ⊢
        omega

theorem instant_of_resolve_fixed (hfix : z.spans.rest = #[]) {w : WallTime} {t : ZonedTime}
    (hlo : Date.minDays * nanosPerDay ≤ (w.toInstant z.spans.first.total).nanos)
    (h : z.resolve w = some t) : t.instant = w.toInstant z.spans.first.total := by
  rw [resolve_of_fixed hfix hlo] at h
  split_ifs at h
  cases h
  rfl

end TimeZone

/-! ## The test against the last instant kept -/

section Keep

variable {z : TimeZone} {anchor : WallTime}

theorem filterMap_resolve_cons {c : WallTime} {cs : List WallTime} :
    ((c :: cs).filter (anchor ≤ ·)).filterMap z.resolve =
      (if c < anchor then none else z.resolve c).toList ++
        (cs.filter (anchor ≤ ·)).filterMap z.resolve := by
  by_cases hc : c < anchor
  · have hnot : ¬ anchor ≤ c := Int.not_le.2 hc
    simp [hc, hnot]
  · have hle : anchor ≤ c := Int.not_lt.1 hc
    cases hres : z.resolve c <;> simp [hc, hle, hres]

/-- When the candidates not before the anchor resolve to ascending instants after the last kept,
the walk keeps every one that resolves. -/
theorem keep_of_ascending : ∀ {last : Option Instant} {cs : List WallTime},
    Ascending ((cs.filter (anchor ≤ ·)).filterMap z.resolve) →
    (∀ l ∈ last, ∀ t ∈ (cs.filter (anchor ≤ ·)).filterMap z.resolve, l < t.instant) →
    keep z anchor last cs = (cs.filter (anchor ≤ ·)).filterMap z.resolve
  | _, [], _, _ => rfl
  | last, c :: cs, hasc, hlast => by
    rw [filterMap_resolve_cons] at hasc hlast ⊢
    rw [keep_cons]
    cases hres : (if c < anchor then none else z.resolve c) with
    | none =>
      -- neither the walk nor the list keeps `c`: it is before the anchor or does not resolve
      have hone : keepOne z anchor last c = none := by
        unfold keepOne
        split_ifs at hres ⊢
        · rfl
        · rw [hres]
      rw [hres] at hasc hlast
      simp only [Option.toList_none, List.nil_append] at hasc hlast ⊢
      rw [hone, show keepOneLast z anchor last c = last by simp [keepOneLast, hone]]
      exact keep_of_ascending hasc hlast
    | some t =>
      -- both keep `t`, which lies after the last instant and before every later value
      rw [hres] at hasc hlast
      simp only [Option.toList_some, List.singleton_append] at hasc hlast ⊢
      have hc : ¬ c < anchor ∧ z.resolve c = some t := by
        split_ifs at hres with hc
        exact ⟨hc, hres⟩
      have hone : keepOne z anchor last c = some t :=
        keepOne_eq_some_iff.2 ⟨hc.1, hc.2, fun l hl => hlast l hl t List.mem_cons_self⟩
      obtain ⟨hfirst, hasc⟩ := List.pairwise_cons.1 hasc
      rw [hone, show keepOneLast z anchor last c = some t.instant by simp [keepOneLast, hone]]
      simp only [Option.toList_some, List.singleton_append]
      congr 1
      refine keep_of_ascending hasc fun l hl t' ht' => ?_
      rw [Option.mem_def, Option.some.injEq] at hl
      rw [← hl]
      exact hfirst t' ht'

/-- In a zone of one offset, a walk keeps each ascending candidate not before an anchor of the
calendar, read at the zone's offset, up to the end of the calendar. -/
theorem keep_of_fixed (hfix : z.spans.rest = #[])
    (hanchor : Date.minDays * nanosPerDay ≤ (anchor.toInstant z.spans.first.total).nanos)
    {cs : List WallTime} (hcs : cs.Pairwise (· < ·)) :
    keep z anchor none cs = (cs.filter (anchor ≤ ·)).filterMap z.resolve := by
  -- a candidate not before the anchor has its instant in or past the calendar
  have hlo : ∀ c : WallTime, anchor ≤ c →
      Date.minDays * nanosPerDay ≤ (c.toInstant z.spans.first.total).nanos :=
    fun c hc => le_trans hanchor (WallTime.toInstant_le_toInstant _ hc)
  refine keep_of_ascending ?_ (by simp)
  refine List.Pairwise.filterMap (R := fun c c' => anchor ≤ c ∧ c < c') _
    (fun c c' hcc' t ht t' ht' => ?_) ?_
  · -- two candidates read at one offset keep their order
    obtain ⟨hac, hlt⟩ := hcc'
    have hac' : anchor ≤ c' := show anchor.nanos ≤ c'.nanos from le_trans hac (le_of_lt hlt)
    rw [TimeZone.instant_of_resolve_fixed hfix (hlo c hac) ht,
      TimeZone.instant_of_resolve_fixed hfix (hlo c' hac') ht']
    exact WallTime.toInstant_lt_toInstant _ hlt
  · exact List.pairwise_filter.2 (hcs.imp fun h hc _ => ⟨of_decide_eq_true hc, h⟩)

end Keep

/-! ## A bound cuts the walk short -/

theorem Rule.candidatesFrom_withBound (r : Rule) (b : Bound) :
    ({ r with bound := b } : Rule).candidatesFrom = r.candidatesFrom := by
  funext a i m
  induction m generalizing i with
  | zero => rfl
  | succ m ih => simp only [Rule.candidatesFrom, Rule.expand_withBound, ih]

namespace Walk

theorem given_of_finished {w : Walk} (hf : w.finished = true) (hpos : w.buffer.size ≤ w.pos) :
    ∀ n, Source.given w n = []
  | 0 => rfl
  | n + 1 => Source.given_succ_of_none (next?_of_finished hf hpos) n

theorem given_of_end_outside {w : Walk} {u : ZonedTime} (hu : w.upTo = some u)
    (hout : u.wall.inRange = false) (hpos : w.buffer.size ≤ w.pos) : ∀ n, Source.given w n = []
  | 0 => rfl
  | n + 1 => by
    cases hf : w.finished
    case true => exact given_of_finished hf hpos (n + 1)
    case false =>
      cases he : w.rule.expand w.anchor w.period with
      | error e =>
        have hfill : w.fill maxEmptyPeriods = .error e := fill_succ_of_error hpos hf he
        exact Source.given_succ_of_error (by
          show next? w = _
          rw [next?_of_le hpos, hfill]
          rfl) n
      | ok o =>
        cases o with
        | none =>
          have hfill : w.fill maxEmptyPeriods = .ok { w with finished := true } :=
            fill_succ_of_none hpos hf he
          rw [given_of_fill hpos hfill]
          exact given_of_finished (w := { w with finished := true }) rfl hpos (n + 1)
        | some p =>
          have hend : w.pastEnd p.start = .error .overflow := by
            unfold pastEnd
            rw [hu]
            simp only [hout, Bool.not_false, if_true]
            rfl
          have hfill : w.fill maxEmptyPeriods = .error .overflow :=
            fill_succ_of_pastEnd_error hpos hf he hend
          exact Source.given_succ_of_error (by
            show next? w = _
            rw [next?_of_le hpos, hfill]
            rfl) n

variable {z : TimeZone}

/-- In a regular zone the walk of a rule gives a prefix of what the walk of the same rule
without its bound gives. -/
theorem given_prefix_unbounded (hz : z.Regular) (r : Rule) (a : ZonedTime) (n : Nat) :
    Source.given (start r z a) n <+: Source.given (start { r with bound := .unbounded } z a) n := by
  have hpos : (start r z a).buffer.size ≤ (start r z a).pos := by simp [start]
  by_cases hk : r.count? = some 0
  · -- a count of zero gives nothing
    rw [given_of_finished (by simp [start, hk]) hpos]
    exact List.nil_prefix
  by_cases hout : ∃ u ∈ (start r z a).upTo, u.wall.inRange = false
  · -- an end off the wall clock gives nothing
    obtain ⟨u, hu, hout⟩ := hout
    rw [given_of_end_outside hu hout hpos]
    exact List.nil_prefix
  -- otherwise the walk follows the one without its bound, and gives a cut of its values
  have hB : ∀ u ∈ (start r z a).upTo, z.Shows u ∧ u.wall.inRange := by
    intro u hu
    refine ⟨hz.shows_resolveUpper (Option.mem_bind_iff.1 hu).choose_spec.2, ?_⟩
    cases hin : u.wall.inRange
    · exact absurd ⟨u, hu, hin⟩ hout
    · rfl
  have hS : Sync z r (start r z a).upTo r.count? (start { r with bound := .unbounded } z a) :=
    ⟨rfl, (Rule.expand_withBound r .unbounded).symm, rfl, rfl, hk, by simp [pending, start],
      by simp [start]⟩
  have heq : start r z a =
      (start { r with bound := .unbounded } z a).bounded r (start r z a).upTo r.count? :=
    start_withHorizon_eq none hk
  rcases take_sync hz hB (Source.given (start r z a) n).length hS with hcut | ⟨e, herr, -⟩
  · rw [← heq, Source.take_length_given] at hcut
    rw [Except.ok.inj hcut]
    exact (cutAt_isPrefix _ _ _).trans (Source.given_prefix_of_le _ (Source.length_given_le _ _))
  · rw [← heq, Source.take_length_given] at herr
    cases herr

/-- In a regular zone, the values a walk gives are a prefix of what it keeps of the candidates
of the periods it visits, and for a rule without a bound exactly the first of them. -/
theorem given_prefix_keep (hz : z.Regular) (r : Rule) (a : ZonedTime) (n : Nat) :
    ∃ m cs, r.candidatesFrom a.wall 0 m = .ok cs ∧
      Source.given (start r z a) n <+: keep z a.wall none cs ∧
      (r.bound = .unbounded → Source.given (start r z a) n = (keep z a.wall none cs).take n) := by
  obtain ⟨m, cs, hcs, hgiven⟩ := given_unbounded n (w := start { r with bound := .unbounded } z a)
    (by simp [start, Rule.upTo?]) (by simp [start, Rule.count?])
  have hcs' : r.candidatesFrom a.wall 0 m = .ok cs := by
    rw [← Rule.candidatesFrom_withBound r .unbounded]
    exact hcs
  -- the walk without the bound gives the first values it keeps, from its start
  have hgiven' : Source.given (start { r with bound := .unbounded } z a) n =
      (keep z a.wall none cs).take n := by
    rw [hgiven, pending_eq_nil (by simp [start])]
    rfl
  refine ⟨m, cs, hcs', ?_, fun hb => ?_⟩
  · refine (given_prefix_unbounded hz r a n).trans ?_
    rw [hgiven']
    exact List.take_prefix _ _
  · have hr : ({ r with bound := .unbounded } : Rule) = r := by rw [← hb]
    rw [← hgiven', hr]

end Walk

/-! ## Candidates only move forward -/

/-- Candidates only move forward: they ascend strictly from the day their period starts, and in
a zone of one offset the walk gives a prefix of them, cut by its bound, the guard or the calendar. -/
theorem candidates_move_forward {r : Rule} (hr : r.PartsInRange) :
    (∀ (n : WallTime) (m : Nat) (cs : List WallTime), r.candidatesFrom n 0 m = .ok cs →
      cs.Pairwise (· < ·)) ∧
    (∀ (n : WallTime) (i : Int) (p : Period), r.expand n i = .ok (some p) →
      ∀ c ∈ p.candidates, p.start.date ≤ c.date) ∧
    ∀ (z : TimeZone) (a : ZonedTime), z.spans.rest = #[] → -secondsPerDay < z.spans.first.total →
      z.spans.first.total < secondsPerDay → z.Shows a → a.instant.inRange →
      (∀ c : WallTime, a.wall ≤ c → z.resolve c =
        if (c.toInstant z.spans.first.total).inRange then
          some ⟨c.toInstant z.spans.first.total, z.spans.first.total⟩ else none) ∧
      (∀ (m : Nat) (cs : List WallTime), r.candidatesFrom a.wall 0 m = .ok cs →
        keep z a.wall none cs = (cs.filter (a.wall ≤ ·)).filterMap z.resolve) ∧
      ∀ k : Nat, ∃ m cs, r.candidatesFrom a.wall 0 m = .ok cs ∧
        Source.given (Walk.start r z a) k <+: (cs.filter (a.wall ≤ ·)).filterMap z.resolve ∧
        (r.bound = .unbounded → Source.given (Walk.start r z a) k =
          ((cs.filter (a.wall ≤ ·)).filterMap z.resolve).take k) := by
  refine ⟨fun n m cs h => Rule.candidatesFrom_pairwise hr h, fun n i p h => Rule.expand_candidate_ge h,
    fun z a hfix hgt hlt hshows hin => ?_⟩
  -- read at the zone's one offset, the anchor's wall time is its instant, within the calendar
  have hoff : a.offset = z.spans.first.total :=
    hshows.trans (congrArg Zone.Span.total (Zone.SpanSet.spanAt_of_fixed hfix _))
  have hanchor : Date.minDays * nanosPerDay ≤ (a.wall.toInstant z.spans.first.total).nanos := by
    have hmin : Date.minDays = -96465292 := by decide
    rw [Instant.inRange, nanosInRange_iff] at hin
    simp only [WallTime.toInstant, ZonedTime.wall_nanos, hoff, hmin, nanosPerDay, secondsPerDay,
      nanosPerSecond] at hin ⊢
    omega
  have hkeep : ∀ (m : Nat) (cs : List WallTime), r.candidatesFrom a.wall 0 m = .ok cs →
      keep z a.wall none cs = (cs.filter (a.wall ≤ ·)).filterMap z.resolve :=
    fun m cs h => keep_of_fixed hfix hanchor (Rule.candidatesFrom_pairwise hr h)
  refine ⟨fun c hc => TimeZone.resolve_of_fixed hfix
    (le_trans hanchor (WallTime.toInstant_le_toInstant _ hc)), hkeep, fun k => ?_⟩
  obtain ⟨m, cs, hcs, hpre, hunb⟩ :=
    Walk.given_prefix_keep (TimeZone.regular_of_fixed hfix hlt hgt) r a k
  rw [hkeep m cs hcs] at hpre hunb
  exact ⟨m, cs, hcs, hpre, hunb⟩

/-- A daily rule in UTC from the epoch: its first three values are the first three of its
candidates, read in UTC. -/
theorem candidates_move_forward_daily :
    (Rule.every .daily).PartsInRange ∧
      ∃ m cs, (Rule.every .daily).candidatesFrom (⟨⟨0⟩, 0⟩ : ZonedTime).wall 0 m = .ok cs ∧
        cs.Pairwise (· < ·) ∧
        Source.given (Walk.start (Rule.every .daily) ⟨"UTC", ⟨⟨0, 0, "UTC"⟩, #[]⟩⟩ ⟨⟨0⟩, 0⟩) 3 =
          ((cs.filter ((⟨⟨0⟩, 0⟩ : ZonedTime).wall ≤ ·)).filterMap
            (TimeZone.resolve ⟨"UTC", ⟨⟨0, 0, "UTC"⟩, #[]⟩⟩)).take 3 := by
  have hr : (Rule.every .daily).PartsInRange :=
    ⟨by decide, List.nodup_nil, by simp [Rule.every], SortedIn.nil _, SortedIn.nil _,
      SortedIn.nil _, SortedIn.nil _, SortedIn.nil _⟩
  have hshows : TimeZone.Shows ⟨"UTC", ⟨⟨0, 0, "UTC"⟩, #[]⟩⟩ ⟨⟨0⟩, 0⟩ := by
    unfold TimeZone.Shows TimeZone.offsetAt
    rw [Zone.SpanSet.spanAt_of_fixed rfl]
    rfl
  obtain ⟨hasc, -, hfixed⟩ := candidates_move_forward hr
  obtain ⟨-, -, hgiven⟩ := hfixed ⟨"UTC", ⟨⟨0, 0, "UTC"⟩, #[]⟩⟩ ⟨⟨0⟩, 0⟩ rfl (by decide) (by decide)
    hshows (by decide)
  obtain ⟨m, cs, hcs, -, hunb⟩ := hgiven 3
  exact ⟨hr, m, cs, hcs, hasc _ m cs hcs, hunb rfl⟩

end Cadence
