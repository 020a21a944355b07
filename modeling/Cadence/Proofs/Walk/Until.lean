import Cadence.Proofs.Walk.Truncation
import Cadence.Schedule.Basic

/-!
# An end the zone cannot resolve

A rule's `UNTIL` is read in the walk's zone as the last instant it covers. A wall time in a gap
is moved an hour later; in a gap longer than an hour, as where a zone skips a whole day, that
is in the gap too and the end has no instant. The walk then starts without an end, and it gives
what the same rule without a bound gives (`Walk.take_of_unresolved_until`). A schedule still
counts such a rule as finite, so a query with neither a window end nor a limit runs it under
the cap, and fails once the cap is passed (`Walk.until_in_gap_unbounded`).

The walk reads its rule only through the rule's periods, so a walk under another rule with the
same periods steps alike (`Walk.next?_withRule`), and a source that steps like another gives
the same values (`Source.take_of_step`).
-/

namespace Cadence

namespace Source

variable {σ σ' α : Type} [Source σ α] [Source σ' α]

/-- A map of states under which every step of one source, from a state with an invariant, is a
step of another gives the same values. -/
theorem take_of_step (P : σ → Prop) (f : σ → σ')
    (hstep : ∀ s, P s → next? (f s) = (next? s).map (Option.map fun p => (p.1, f p.2)))
    (hkeep : ∀ s a s', P s → next? s = .ok (some (a, s')) → P s') :
    ∀ (n : Nat) (s : σ), P s → take (f s) n = take s n
  | 0, _, _ => rfl
  | n + 1, s, hs => by
    cases h : next? s with
    | error e =>
      rw [take_succ_of_error h, take_succ_of_error (by rw [hstep s hs, h]; rfl)]
    | ok o =>
      cases o with
      | none =>
        rw [take_succ_of_none h, take_succ_of_none (by rw [hstep s hs, h]; rfl)]
      | some p =>
        rw [take_succ_of_some h, take_succ_of_some (by rw [hstep s hs, h]; rfl),
          take_of_step P f hstep hkeep n p.2 (hkeep s p.1 p.2 hs h)]

end Source

namespace Walk

/-! ## The walk reads its rule only through its periods -/

theorem absorb_withRule (r : Rule) (cs : List WallTime) :
    ∀ w : Walk, ({ w with rule := r } : Walk).absorb cs = { w.absorb cs with rule := r } := by
  induction cs with
  | nil => intro w; rfl
  | cons c cs ih =>
    intro w
    simp only [absorb]
    -- the cases of `absorb`, each read off the same fields on both sides
    by_cases hc : c < w.anchor
    · simp only [hc, if_true]
      exact ih w
    simp only [hc, if_false]
    cases hres : w.zone.resolve c with
    | none => exact ih w
    | some t =>
      by_cases hup : (w.upTo.map fun u => decide (t.instant > u.instant)) = some true
      · simp only [hup, if_true]
      simp only [hup, if_false]
      by_cases hl : (w.last.map fun l => decide (t.instant ≤ l)) = some true
      · simp only [hl, if_true]
        exact ih w
      simp only [hl, if_false]
      rcases w.remaining with _ | _ | k
      · exact ih ⟨w.rule, w.zone, w.anchor, w.upTo, none, w.period, w.buffer.push t, w.pos,
          some t.instant, w.finished⟩
      · exact ih ⟨w.rule, w.zone, w.anchor, w.upTo, some 0, w.period, w.buffer.push t, w.pos,
          some t.instant, w.finished⟩
      · by_cases hk : k = 0
        · simp only [hk, if_true]
        · simp only [hk, if_false]
          exact ih ⟨w.rule, w.zone, w.anchor, w.upTo, some k, w.period, w.buffer.push t, w.pos,
            some t.instant, w.finished⟩

theorem fill_withRule {r : Rule} :
    ∀ (fuel : Nat) (w : Walk), r.expand = w.rule.expand →
      ({ w with rule := r } : Walk).fill fuel = (w.fill fuel).map ({ · with rule := r })
  | 0, _, _ => rfl
  | fuel + 1, w, hr => by
    by_cases hready : w.pos < w.buffer.size ∨ w.finished = true
    · rw [fill_succ_of_ready hready, fill_succ_of_ready (w := { w with rule := r }) hready]
      rfl
    obtain ⟨hpos, hf⟩ : w.buffer.size ≤ w.pos ∧ w.finished = false := by simpa using hready
    have he : ({ w with rule := r } : Walk).rule.expand w.anchor w.period =
        w.rule.expand w.anchor w.period := by rw [← hr]
    cases hexp : w.rule.expand w.anchor w.period with
    | error e =>
      rw [fill_succ_of_error hpos hf hexp,
        fill_succ_of_error (w := { w with rule := r }) hpos hf (he.trans hexp)]
      rfl
    | ok o =>
      cases o with
      | none =>
        rw [fill_succ_of_none hpos hf hexp,
          fill_succ_of_none (w := { w with rule := r }) hpos hf (he.trans hexp)]
        rfl
      | some p =>
        -- the end test reads only the walk's end, which the rule does not touch
        cases hp : w.pastEnd p.start with
        | error e =>
          rw [fill_succ_of_pastEnd_error hpos hf hexp hp,
            fill_succ_of_pastEnd_error (w := { w with rule := r }) hpos hf (he.trans hexp) hp]
          rfl
        | ok b =>
          cases b with
          | true =>
            rw [fill_succ_of_past hpos hf hexp hp,
              fill_succ_of_past (w := { w with rule := r }) hpos hf (he.trans hexp) hp]
            rfl
          | false =>
            rw [fill_succ_of_absorb hpos hf hexp hp,
              fill_succ_of_absorb (w := { w with rule := r }) hpos hf (he.trans hexp) hp]
            have habs : ({ w with rule := r } : Walk).absorbPeriod p =
                { w.absorbPeriod p with rule := r } :=
              absorb_withRule r p.candidates { w with period := p.next, buffer := #[], pos := 0 }
            have hrule : r.expand = (w.absorbPeriod p).rule.expand := by
              rw [hr, absorbPeriod, (absorb_frame _ p.candidates).1]
            rw [habs]
            split
            · split
              · rfl
              · exact fill_withRule fuel _ hrule
            · rfl

/-- A walk under another rule with the same periods gives the same next value. -/
theorem next?_withRule {r : Rule} {w : Walk} (hr : r.expand = w.rule.expand) :
    next? ({ w with rule := r } : Walk) =
      (next? w).map (Option.map fun p => (p.1, { p.2 with rule := r })) := by
  unfold next?
  by_cases hpos : w.pos < w.buffer.size
  · simp only [hpos, if_true, pure_bind]
    rfl
  · simp only [hpos, if_false]
    rw [fill_withRule maxEmptyPeriods w hr]
    cases w.fill maxEmptyPeriods with
    | error e => rfl
    | ok w' =>
      by_cases h' : w'.pos < w'.buffer.size
      · simp [h', Except.map]
      · simp [h', Except.map]

theorem next?_rule {w w' : Walk} {x : ZonedTime} (h : next? w = .ok (some (x, w'))) :
    w'.rule = w.rule := by
  refine step_keeps (fun v => v.rule = w.rule) (Q := fun _ v => v.rule = w.rule)
    (fun hv hfill => fill_keeps (fun v => v.rule = w.rule) (fun h => h)
      (fun h _ => (absorb_frame _ _).1.trans h) hv hfill)
    (fun hv hlt h => ?_) rfl h
  -- giving a value found changes only the position
  rw [next?_of_lt hlt] at h
  cases h
  exact hv

/-! ## An `UNTIL` in a gap longer than an hour -/

theorem start_of_unresolved_until {r : Rule} {z : TimeZone} {u : Stamp}
    (hb : r.bound = .upTo u) (hu : u.resolveUpper z = none) (a : ZonedTime) :
    Walk.start r z a = { Walk.start { r with bound := .unbounded } z a with rule := r } := by
  simp [Walk.start, Rule.upTo?, Rule.count?, hb, hu]

/-- An `UNTIL` that the zone cannot resolve does not bound the walk: its values are those of
the same rule without a bound, however many are taken. -/
theorem take_of_unresolved_until {r : Rule} {z : TimeZone} {u : Stamp}
    (hb : r.bound = .upTo u) (hu : u.resolveUpper z = none) (a : ZonedTime) (n : Nat) :
    Source.take (Walk.start r z a) n =
      Source.take (Walk.start { r with bound := .unbounded } z a) n := by
  rw [start_of_unresolved_until hb hu a]
  -- the walks the unbounded one steps through keep its rule, whose periods are the bounded rule's
  exact Source.take_of_step (fun w : Walk => w.rule.expand = r.expand) (fun w => { w with rule := r })
    (fun w hw => next?_withRule hw.symm) (fun w _ w' hw h => (next?_rule h).symm ▸ hw) n
    (Walk.start { r with bound := .unbounded } z a) (Rule.expand_withBound r .unbounded)

/-- A zone that skips 2011-12-30, from ten hours behind UTC to fourteen ahead: a daily rule until
noon that day walks as the daily rule without a bound. -/
theorem take_of_unresolved_until_skipped_day :
    ({ Rule.every .daily with bound := .upTo (.wall ⟨1325246400000000000⟩) } : Rule).bound =
        .upTo (.wall ⟨1325246400000000000⟩) ∧
      (Stamp.wall ⟨1325246400000000000⟩).resolveUpper
        ⟨"Pacific/Apia", ⟨⟨-39600, 3600, "-10"⟩, #[(1325239200, ⟨46800, 3600, "+14"⟩)]⟩⟩ = none ∧
      Source.take (Walk.start { Rule.every .daily with bound := .upTo (.wall ⟨1325246400000000000⟩) }
          ⟨"Pacific/Apia", ⟨⟨-39600, 3600, "-10"⟩, #[(1325239200, ⟨46800, 3600, "+14"⟩)]⟩⟩
          ⟨⟨1325012400000000000⟩, -36000⟩) 6 =
        Source.take (Walk.start { { Rule.every .daily with
              bound := .upTo (.wall ⟨1325246400000000000⟩) } with bound := .unbounded }
          ⟨"Pacific/Apia", ⟨⟨-39600, 3600, "-10"⟩, #[(1325239200, ⟨46800, 3600, "+14"⟩)]⟩⟩
          ⟨⟨1325012400000000000⟩, -36000⟩) 6 := by
  have hu : (Stamp.wall ⟨1325246400000000000⟩).resolveUpper
      ⟨"Pacific/Apia", ⟨⟨-39600, 3600, "-10"⟩, #[(1325239200, ⟨46800, 3600, "+14"⟩)]⟩⟩ = none := by
    decide +kernel
  exact ⟨rfl, hu, take_of_unresolved_until rfl hu _ 6⟩

/-- `UNTIL=20111230T120000` in a zone that skips 2011-12-30 has no instant, so the daily walk
runs past it, yet the schedule counts as finite and a query with no end fails on a cap of three. -/
theorem until_in_gap_unbounded :
    Rule.ofText "FREQ=DAILY;UNTIL=20111230T120000" =
        .ok { Rule.every .daily with bound := .upTo (.wall ⟨1325246400000000000⟩) } ∧
      (Stamp.wall ⟨1325246400000000000⟩).resolveUpper
        ⟨"Pacific/Apia", ⟨⟨-39600, 3600, "-10"⟩, #[(1325239200, ⟨46800, 3600, "+14"⟩)]⟩⟩ = none ∧
      (⟨⟨some { Rule.every .daily with bound := .upTo (.wall ⟨1325246400000000000⟩) }, none, [], []⟩,
          ⟨1325012400000000000⟩, ⟨1325012400000000000⟩,
          ⟨"Pacific/Apia", ⟨⟨-39600, 3600, "-10"⟩, #[(1325239200, ⟨46800, 3600, "+14"⟩)]⟩⟩, 3⟩ :
          Schedule).isInfinite = false ∧
      (⟨⟨some { Rule.every .daily with bound := .upTo (.wall ⟨1325246400000000000⟩) }, none, [], []⟩,
          ⟨1325012400000000000⟩, ⟨1325012400000000000⟩,
          ⟨"Pacific/Apia", ⟨⟨-39600, 3600, "-10"⟩, #[(1325239200, ⟨46800, 3600, "+14"⟩)]⟩⟩, 3⟩ :
          Schedule).occurrences none none none = .error (.capExceeded 3) := by
  decide +kernel

end Walk

end Cadence
