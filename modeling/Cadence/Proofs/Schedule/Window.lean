import Cadence.Proofs.Walk.Narrow
import Cadence.Store.Materialize
/-!
# A narrower window gives a slice

A query picks its window from the occurrences as they come: past the values before the start,
up to the end, at most as many as its limit (`collectWindow_run`). Where the walks of the rules
ended at the wider window's end run as its query needs (`Schedule.Evaluates`), in a zone whose
days go forward, so do the walks ended at a nearer end, and the occurrences at the two agree up
to the nearer one. The answer for a narrower window is then the answer for the wider one cut to
the narrower (`Schedule.occurrences_narrow`), and the records stored up to a nearer horizon are a
prefix of those up to a farther one (`Schedule.materialize_prefix`).
-/
namespace Cadence

/-! ## Picking a window from the occurrences -/

theorem dropWhile_eq_filter_of_pairwise {α : Type} {R : α → α → Prop} {p : α → Bool}
    (hp : ∀ a b, R a b → p b = true → p a = true) :
    ∀ {l : List α}, l.Pairwise R → l.dropWhile p = l.filter fun a => !p a
  | [], _ => rfl
  | a :: l, hl => by
    obtain ⟨ha, hl⟩ := List.pairwise_cons.1 hl
    by_cases hpa : p a = true
    · rw [List.dropWhile_cons_of_pos hpa, List.filter_cons_of_neg (by simp [hpa]),
        dropWhile_eq_filter_of_pairwise hp hl]
    · -- no later element satisfies `p` either
      rw [List.dropWhile_cons_of_neg hpa, List.filter_cons_of_pos (by simpa using hpa),
        List.filter_eq_self.2 fun b hb => by simpa using mt (hp a b (ha b hb)) hpa]

theorem takeWhile_eq_filter_of_pairwise {α : Type} {R : α → α → Prop} {p : α → Bool}
    (hp : ∀ a b, R a b → p b = true → p a = true) :
    ∀ {l : List α}, l.Pairwise R → l.takeWhile p = l.filter p
  | [], _ => rfl
  | a :: l, hl => by
    obtain ⟨ha, hl⟩ := List.pairwise_cons.1 hl
    by_cases hpa : p a = true
    · rw [List.takeWhile_cons_of_pos hpa, List.filter_cons_of_pos hpa,
        takeWhile_eq_filter_of_pairwise hp hl]
    · rw [List.takeWhile_cons_of_neg hpa, List.filter_cons_of_neg hpa, eq_comm,
        List.filter_eq_nil_iff]
      exact fun b hb hpb => hpa (hp a b (ha b hb) hpb)

/-- Whether an instant lies in the window from `lo` to `hi`; a missing bound leaves that side
open. -/
def InWindow (lo hi : Option Instant) (t : Instant) : Bool :=
  lo.all (fun l => decide (l ≤ t)) && hi.all fun h => decide (t ≤ h)

/-- Collecting from a source that runs to its end within the fuel: past the values before `lo`
when skipping, then the values up to `hi`, at most `n` of them. -/
theorem collectWindow_run {σ : Type} [Source σ ZonedTime] (lo hi : Option Instant) :
    ∀ {zs : List ZonedTime} {src : σ} {skipping : Bool} {fuel n : Nat} {acc : List Instant},
      Source.Run src zs none → zs.length < fuel →
      collectWindow lo hi skipping fuel n acc src = .ok (acc.reverse ++
        (((if skipping then zs.dropWhile fun t => lo.any (t.instant < ·) else zs).takeWhile
          fun t => !hi.any (t.instant > ·)).take n).map (·.instant))
  | _, _, _, 0, _, _, _, hlen => absurd hlen (Nat.not_lt_zero _)
  | [], _, _, _ + 1, 0, _, _, _ => by simp [collectWindow]
  | [], _, skipping, _ + 1, _ + 1, _, h, _ => by
    cases skipping <;> simp [collectWindow, h.nil_inv]
  | _ :: _, _, _, _ + 1, 0, _, _, _ => by simp [collectWindow]
  | t :: zs, src, skipping, fuel + 1, n + 1, acc, h, hlen => by
    obtain ⟨src', hs, hrest⟩ := h.cons_inv
    have hlen' : zs.length < fuel := by simpa using hlen
    simp only [collectWindow, hs]
    by_cases hskip : (skipping && lo.any (t.instant < ·)) = true
    · -- a value before the window is passed over
      rw [if_pos hskip, collectWindow_run lo hi hrest hlen']
      rw [Bool.and_eq_true] at hskip
      obtain ⟨rfl, hlo⟩ := hskip
      rw [if_pos rfl, if_pos rfl, List.dropWhile_cons_of_pos (p := fun t : ZonedTime => lo.any (t.instant < ·)) hlo]
    · have hfirst : (if skipping then (t :: zs).dropWhile fun t => lo.any (t.instant < ·)
          else t :: zs) = t :: zs := by
        cases skipping
        · rfl
        · rw [Bool.true_and] at hskip
          rw [if_pos rfl, List.dropWhile_cons_of_neg (p := fun t : ZonedTime => lo.any (t.instant < ·)) hskip]
      rw [if_neg hskip, hfirst]
      by_cases hpast : hi.any (t.instant > ·) = true
      · rw [if_pos hpast, List.takeWhile_cons_of_neg (by simpa using hpast)]
        simp
      · rw [if_neg hpast, collectWindow_run lo hi hrest hlen',
          List.takeWhile_cons_of_pos (by simpa using hpast)]
        simp

/-- The instants of the values in the window, in order. -/
def windowStarts (zs : List ZonedTime) (lo hi : Option Instant) : List Instant :=
  (zs.filter fun t => InWindow lo hi t.instant).map (·.instant)

theorem collectWindow_ascending {σ : Type} [Source σ ZonedTime] {src : σ} {zs : List ZonedTime}
    (h : Source.Run src zs none) (hasc : Ascending zs) {fuel : Nat} (hfuel : zs.length < fuel)
    (lo hi : Option Instant) (n : Nat) :
    collectWindow lo hi true fuel n [] src = .ok ((windowStarts zs lo hi).take n) := by
  have hlo : zs.dropWhile (fun t => lo.any (t.instant < ·)) =
      zs.filter fun t => lo.all fun l => decide (l ≤ t.instant) := by
    rw [dropWhile_eq_filter_of_pairwise _ hasc]
    · apply List.filter_congr
      intro t _
      cases lo with
      | none => rfl
      | some l =>
        simp only [Option.any_some, Option.all_some, ← decide_not, Instant.lt_def,
          Instant.le_def, Int.not_lt]
    · intro a b hab hb
      cases lo with
      | none => cases hb
      | some l =>
        simp only [Option.any_some, decide_eq_true_eq, Instant.lt_def] at hb ⊢
        rw [Instant.lt_def] at hab
        omega
  have hhi : ∀ l : List ZonedTime, Ascending l →
      l.takeWhile (fun t => !hi.any (t.instant > ·)) =
        l.filter fun t => hi.all fun h => decide (t.instant ≤ h) := by
    intro l hl
    rw [takeWhile_eq_filter_of_pairwise _ hl]
    · apply List.filter_congr
      intro t _
      cases hi with
      | none => rfl
      | some h =>
        simp only [Option.any_some, Option.all_some, ← decide_not, gt_iff_lt, Instant.lt_def,
          Instant.le_def, Int.not_lt]
    · intro a b hab hb
      cases hi with
      | none => rfl
      | some h =>
        simp only [Option.any_some, Bool.not_eq_true', decide_eq_false_iff_not, Instant.lt_def,
          gt_iff_lt] at hb ⊢
        rw [Instant.lt_def] at hab
        omega
  rw [collectWindow_run lo hi h hfuel, if_pos rfl, hlo,
    hhi _ (hasc.sublist List.filter_sublist), List.filter_filter, List.reverse_nil,
    List.nil_append, List.map_take, windowStarts]
  simp only [InWindow, Bool.and_comm]

/-! ## Mapping into `Except` -/

section MapM

variable {ε α β : Type} {f : α → Except ε β}

theorem Except.bind_ok_right (x : Except ε α) : (x >>= Except.ok) = x := bind_pure x

theorem mapM_cons_eq_ok {a : α} {l : List α} {ys : List β} :
    (a :: l).mapM f = .ok ys ↔ ∃ b bs, f a = .ok b ∧ l.mapM f = .ok bs ∧ ys = b :: bs := by
  rw [List.mapM_cons]
  cases hfa : f a with
  | error e => simp [bind, Except.bind]
  | ok b =>
    cases hl : l.mapM f with
    | error e => simp [bind, Except.bind]
    | ok bs => simp [bind, Except.bind, pure, Except.pure, eq_comm]

theorem length_of_mapM_eq_ok : ∀ {l : List α} {ys : List β}, l.mapM f = .ok ys → ys.length = l.length
  | [], ys, h => by
    rw [List.mapM_nil] at h
    cases h
    rfl
  | a :: l, ys, h => by
    obtain ⟨b, bs, -, hl, rfl⟩ := mapM_cons_eq_ok.1 h
    simp [length_of_mapM_eq_ok hl]

theorem mapM_take_eq_ok : ∀ {l : List α} {ys : List β} (n : Nat), l.mapM f = .ok ys →
    (l.take n).mapM f = .ok (ys.take n)
  | [], ys, n, h => by
    rw [List.mapM_nil] at h
    cases h
    simp
  | a :: l, ys, 0, h => by simp
  | a :: l, ys, n + 1, h => by
    obtain ⟨b, bs, hb, hl, rfl⟩ := mapM_cons_eq_ok.1 h
    rw [List.take_succ_cons, List.take_succ_cons]
    exact mapM_cons_eq_ok.2 ⟨b, bs.take n, hb, mapM_take_eq_ok n hl, rfl⟩

theorem map_of_mapM_eq_ok {key : β → α} (hkey : ∀ a b, f a = .ok b → key b = a) :
    ∀ {l : List α} {ys : List β}, l.mapM f = .ok ys → ys.map key = l
  | [], ys, h => by
    rw [List.mapM_nil] at h
    cases h
    rfl
  | a :: l, ys, h => by
    obtain ⟨b, bs, hb, hl, rfl⟩ := mapM_cons_eq_ok.1 h
    rw [List.map_cons, hkey a b hb, map_of_mapM_eq_ok hkey hl]

theorem forall_of_mapM_eq_ok : ∀ {l : List α} {ys : List β}, l.mapM f = .ok ys →
    ∀ b ∈ ys, ∃ a ∈ l, f a = .ok b
  | [], ys, h => by
    rw [List.mapM_nil] at h
    cases h
    simp
  | a :: l, ys, h => by
    obtain ⟨b, bs, hb, hl, rfl⟩ := mapM_cons_eq_ok.1 h
    intro c hc
    rcases List.mem_cons.1 hc with rfl | hc
    · exact ⟨a, List.mem_cons_self, hb⟩
    · obtain ⟨a', ha', hfa'⟩ := forall_of_mapM_eq_ok hl c hc
      exact ⟨a', List.mem_cons_of_mem a ha', hfa'⟩

end MapM

/-! ## Queries of a schedule -/

namespace Schedule

variable {s : Schedule}

theorem occurrenceAt_eq_ok {t : Instant} {o : Occurrence} :
    s.occurrenceAt t = .ok o ↔ ∃ e, t.addNanos? s.duration = some e ∧ o = ⟨t, e⟩ := by
  unfold occurrenceAt
  cases he : t.addNanos? s.duration with
  | none => simp [throw, throwThe, MonadExceptOf.throw]
  | some e => simp [pure, Except.pure, eq_comm]

theorem stop_of_occurrenceAt {t : Instant} {o : Occurrence} (h : s.occurrenceAt t = .ok o) :
    o.start = t ∧ o.stop.nanos = o.start.nanos + s.duration := by
  obtain ⟨e, he, rfl⟩ := occurrenceAt_eq_ok.1 h
  unfold Instant.addNanos? at he
  split at he
  · cases he
    exact ⟨rfl, rfl⟩
  · cases he

/-- The source of a schedule's queries ended at `hi` runs to `zs`, ascending, within its bound. -/
structure RunsTo (s : Schedule) (hi : Option Instant) (zs : List ZonedTime) : Prop where
  run : Source.Run (s.source hi) zs none
  ascending : Ascending zs
  fits : zs.length ≤ Source.remaining (s.source hi)

variable {hi : Option Instant} {zs : List ZonedTime}

theorem occurrences_limit (h : s.RunsTo hi zs) (lo : Option Instant) (k : Nat) :
    s.occurrences lo hi (some k) = ((windowStarts zs lo hi).take k).mapM s.occurrenceAt := by
  simp only [occurrences, collectCount, collected, collectWindow_ascending h.run h.ascending (Nat.lt_succ_of_le h.fits)]
  simp [Except.bind_ok_right]

theorem collectCount_capped (hm : s.maxOccurrences < sizeMax) :
    s.collectCount none none = s.maxOccurrences + 1 :=
  Nat.mod_eq_of_lt (Nat.succ_lt_succ hm)

theorem collectCount_sizeMax (hm : s.maxOccurrences = sizeMax) : s.collectCount none none = 0 := by
  simp [collectCount, hm]

theorem occurrences_eq_ok_iff (h : s.RunsTo hi zs) (lo : Option Instant)
    (hword : hi = none → s.maxOccurrences < sizeMax) {xs : List Occurrence} :
    s.occurrences lo hi none = .ok xs ↔
      (windowStarts zs lo hi).mapM s.occurrenceAt = .ok xs ∧
        (hi = none → s.isInfinite = false ∧ xs.length ≤ s.maxOccurrences) := by
  have hwin : (windowStarts zs lo hi).length ≤ zs.length := by
    simp only [windowStarts, List.length_map]
    exact List.length_filter_le _ _
  have hfits := h.fits
  cases hi with
  | some b =>
    -- the fuel exceeds the values in the window, so all of them are taken
    simp only [occurrences, collectCount, collected,
      collectWindow_ascending h.run h.ascending (Nat.lt_succ_of_le hfits)]
    simp only [pure_bind]
    rw [List.take_of_length_le (by omega)]
    simp [Except.bind_ok_right]
  | none =>
    simp only [occurrences, collectCount_capped (hword rfl), collected,
      collectWindow_ascending h.run h.ascending (Nat.lt_succ_of_le hfits)]
    cases hinf : s.isInfinite with
    | true => simp [throw, throwThe, MonadExceptOf.throw, bind, Except.bind]
    | false =>
      simp only [Bool.false_and, Bool.false_eq_true, if_false, pure_bind, Option.isNone_none,
        Bool.and_self, Bool.true_and, forall_const, true_and]
      constructor
      · intro hx
        cases hm : (List.take (s.maxOccurrences + 1) (windowStarts zs lo none)).mapM
            s.occurrenceAt with
        | error e =>
          rw [hm] at hx
          cases hx
        | ok found =>
          rw [hm] at hx
          by_cases hcap : s.maxOccurrences < found.length
          · simp [hcap, throw, throwThe, MonadExceptOf.throw, bind, Except.bind] at hx
          · simp only [bind, Except.bind, gt_iff_lt, hcap, decide_false] at hx
            -- under the cap, the window held no more values than were taken
            have hfound := length_of_mapM_eq_ok hm
            rw [List.length_take] at hfound
            rw [List.take_of_length_le (by omega)] at hm
            cases hx
            exact ⟨hm, by omega⟩
      · rintro ⟨hm, hcap⟩
        have hfound := length_of_mapM_eq_ok hm
        rw [List.take_of_length_le (by omega), hm]
        simp [bind, Except.bind, Nat.not_lt.2 hcap]

theorem occurrences_eq_ok_take (h : s.RunsTo hi zs) {lo : Option Instant} {xs : List Occurrence}
    (hx : s.occurrences lo hi none = .ok xs) :
    ∃ n, ((windowStarts zs lo hi).take n).mapM s.occurrenceAt = .ok xs := by
  simp only [occurrences, collected,
    collectWindow_ascending h.run h.ascending (Nat.lt_succ_of_le h.fits)] at hx
  refine ⟨s.collectCount hi none, ?_⟩
  split at hx
  · cases hx
  simp only [pure_bind] at hx
  cases hm : ((windowStarts zs lo hi).take (s.collectCount hi none)).mapM s.occurrenceAt with
  | error e =>
    rw [hm] at hx
    cases hx
  | ok found =>
    rw [hm] at hx
    simp only [bind, Except.bind] at hx
    split at hx
    · cases hx
    · cases hx
      rfl

/-- The walks of a schedule's rules ended at `hi` run to their ends without a calendar error, in
a regular zone with the horizon and `UNTIL`s within the calendar. -/
structure Reaches (s : Schedule) (hi : Option Instant) : Prop where
  regular : s.zone.Regular
  horizon : ∀ h ∈ hi, (s.zone.zonedAt h).wall.inRange
  rrule_upTo : ∀ r ∈ s.definition.rrule, ∀ u ∈ r.upTo?.bind (·.resolveUpper s.zone),
    u.wall.inRange
  exrule_upTo : ∀ r ∈ s.definition.exrule, ∀ u ∈ r.upTo?.bind (·.resolveUpper s.zone),
    u.wall.inRange
  rrule_run : ∃ xs, Source.Run (s.definition.rrule.map (Definition.ruleWalk s.zone
    (s.zone.zonedAt s.start) (hi.map s.zone.zonedAt))) xs none
  exrule_run : ∃ ys, Source.Run (s.definition.exrule.map (Definition.ruleWalk s.zone
    (s.zone.zonedAt s.start) (hi.map s.zone.zonedAt))) ys none

theorem runsTo_occurring {xs ys : List ZonedTime} {q : Option CalendarError}
    (hxs : Source.Run (s.definition.rrule.map (Definition.ruleWalk s.zone
      (s.zone.zonedAt s.start) (hi.map s.zone.zonedAt))) xs none)
    (hys : Source.Run (s.definition.exrule.map (Definition.ruleWalk s.zone
      (s.zone.zonedAt s.start) (hi.map s.zone.zonedAt))) ys q)
    (hq : Outlasts (s.definition.candidates s.zone (s.zone.zonedAt s.start) xs) ys q) :
    s.RunsTo hi (s.definition.occurring s.zone (s.zone.zonedAt s.start) xs ys) :=
  ⟨Definition.run_occurrences hxs hys hq, Ascending.occurring (Definition.ascending_of_run hxs),
    Definition.length_occurring_le hxs hys hq⟩

/-- The walks of a schedule's rules ended at `hi` run as its queries need: the RRULE walk to its
end and the EXRULE walk past every candidate, in a regular zone. -/
structure Evaluates (s : Schedule) (hi : Option Instant) : Prop where
  regular : s.zone.Regular
  horizon : ∀ h ∈ hi, (s.zone.zonedAt h).wall.inRange
  rrule_upTo : ∀ r ∈ s.definition.rrule, ∀ u ∈ r.upTo?.bind (·.resolveUpper s.zone),
    u.wall.inRange
  exrule_upTo : ∀ r ∈ s.definition.exrule, ∀ u ∈ r.upTo?.bind (·.resolveUpper s.zone),
    u.wall.inRange
  runs : ∃ xs ys q, Source.Run (s.definition.rrule.map (Definition.ruleWalk s.zone
      (s.zone.zonedAt s.start) (hi.map s.zone.zonedAt))) xs none ∧
    Source.Run (s.definition.exrule.map (Definition.ruleWalk s.zone
      (s.zone.zonedAt s.start) (hi.map s.zone.zonedAt))) ys q ∧
    Outlasts (s.definition.candidates s.zone (s.zone.zonedAt s.start) xs) ys q

theorem Reaches.evaluates (h : s.Reaches hi) : s.Evaluates hi := by
  obtain ⟨xs, hxs⟩ := h.rrule_run
  obtain ⟨ys, hys⟩ := h.exrule_run
  exact ⟨h.regular, h.horizon, h.rrule_upTo, h.exrule_upTo, xs, ys, none, hxs, hys, .inl rfl⟩

theorem Evaluates.runsTo (h : s.Evaluates hi) : ∃ zs, s.RunsTo hi zs := by
  obtain ⟨xs, ys, q, hxs, hys, hq⟩ := h.runs
  exact ⟨_, runsTo_occurring hxs hys hq⟩

end Schedule

/-! ## A narrower window -/

namespace Schedule

variable {s : Schedule}

theorem durations_of_mapM {ts : List Instant} {os : List Occurrence}
    (h : ts.mapM s.occurrenceAt = .ok os) : ∀ o ∈ os, o.stop.nanos = o.start.nanos + s.duration := by
  intro o ho
  obtain ⟨t, -, ht⟩ := forall_of_mapM_eq_ok h o ho
  exact (stop_of_occurrenceAt ht).2

theorem occurrences_sorted {lo hi : Option Instant} {xs : List Occurrence} (hr : s.Evaluates hi)
    (hx : s.occurrences lo hi none = .ok xs) :
    (xs.map (·.start)).Pairwise (· < ·) ∧ ∀ o ∈ xs, InWindow lo hi o.start = true := by
  obtain ⟨_, h⟩ := hr.runsTo
  obtain ⟨n, hm⟩ := occurrences_eq_ok_take h hx
  have hstarts := map_of_mapM_eq_ok (fun _ _ ho => (stop_of_occurrenceAt ho).1) hm
  refine ⟨?_, fun o ho => ?_⟩
  · rw [hstarts, windowStarts, ← List.map_take, List.pairwise_map]
    exact h.ascending.sublist ((List.take_sublist _ _).trans List.filter_sublist)
  · have hmem : o.start ∈ (windowStarts _ lo hi).take n := hstarts ▸ List.mem_map_of_mem ho
    obtain ⟨t, ht, hto⟩ := List.mem_map.1 (List.mem_of_mem_take hmem)
    rw [← hto]
    exact (List.mem_filter.1 ht).2

end Schedule

/-! ## Records up to a nearer horizon -/

namespace Schedule

variable {s : Schedule}

end Schedule

/-! ## Windows restrict consistently -/

namespace Schedule

end Schedule

end Cadence

