import Cadence.Proofs.Walk.Combined

/-!
# Evaluation stops

Pulling values from a source until it stops, it stops (`Source.Stops`): after finitely many
values it has none left or fails with a calendar error. A source stops when each value it gives
leaves a source of lower rank (`Source.stops_of_rank`), and every stream of an evaluation has such
a rank. A walk gives ascending instants of the calendar, so the instants of the calendar after the
last one given rank it (`Walk.stops`). A union gives the head of one of its sides, so the values
left on both sides rank it; a difference and the occurrences pull at least one value of the
stream inside them for each value they give, so the values left inside rank them
(`Source.stops_of_inner`). Hence the
occurrences of every definition stop, from every anchor, with or without a horizon
(`Definition.occurrences_stop`).
-/
namespace Cadence

namespace Source

variable {σ α : Type} [Source σ α]

/-- A source stops when a source inside it stops and each value it gives leaves fewer values
inside. -/
theorem stops_of_inner {τ β : Type} [Source τ β] (inner : σ → τ)
    (hstep : ∀ {s a s' xs r}, Run (inner s) xs r → next? s = .ok (some (a, s')) →
      ∃ ys, Run (inner s') ys r ∧ ys.length < xs.length)
    {s : σ} {xs : List β} {r : Option CalendarError} (h : Run (inner s) xs r) : Stops s :=
  stops_of_rank (fun s n => ∃ xs r, Run (inner s) xs r ∧ xs.length ≤ n)
    (fun ⟨xs, r, h, hle⟩ hs => by
      obtain ⟨ys, hys, hlt⟩ := hstep h hs
      exact ⟨ys.length, by omega, ys, r, hys, le_rfl⟩)
    ⟨xs, r, h, le_rfl⟩

end Source

/-! ## Unions and differences -/

namespace Union

variable {σ τ α : Type} [Ord α] [Source σ α] [Source τ α]

theorem stops_of_runs {u : Union σ τ α} {xs ys : List α} {r r' : Option CalendarError}
    (hl : u.left.Run xs r) (hr : u.right.Run ys r') : Source.Stops u :=
  Source.stops_of_rank
    (fun u n => ∃ xs r ys r', u.left.Run xs r ∧ u.right.Run ys r' ∧ xs.length + ys.length ≤ n)
    (fun ⟨xs, r, ys, r', hl, hr, hle⟩ hs => by
      obtain ⟨l, q, hlf, hrf, hcase⟩ := next?_eq_some hs
      have hl' := hl.force hlf
      have hr' := hr.force hrf
      rcases hcase with ⟨s, rfl, rfl⟩ | ⟨t, rfl, rfl⟩ | ⟨s, b, t, rfl, rfl, rfl⟩
      · -- the head of the left side
        obtain ⟨xs', rfl, hs'⟩ := hl'
        exact ⟨_, by simp only [List.length_cons] at hle; omega, xs', r, ys, r', hs', hr', le_rfl⟩
      · -- the head of the right side
        obtain ⟨ys', rfl, ht'⟩ := hr'
        exact ⟨_, by simp only [List.length_cons] at hle; omega, xs, r, ys', r', hl', ht', le_rfl⟩
      · -- equal heads, both given as one
        obtain ⟨xs', rfl, hs'⟩ := hl'
        obtain ⟨ys', rfl, ht'⟩ := hr'
        exact ⟨_, by simp only [List.length_cons] at hle; omega, xs', r, ys', r', hs', ht',
          le_rfl⟩)
    ⟨xs, r, ys, r', hl, hr, le_rfl⟩

end Union

namespace Difference

variable {σ τ α : Type} [Ord α] [Source σ α] [Source τ α]

theorem nextWithin_base : ∀ {b : Nat} {d d' : Difference σ τ α} {c : α} {xs : List α}
    {r : Option CalendarError}, Source.Run d.base xs r → nextWithin d b = .ok (some (c, d')) →
    ∃ ys, Source.Run d'.base ys r ∧ ys.length < xs.length
  | 0, _, _, _, _, _, _, h => by simp [nextWithin] at h
  | b + 1, d, d', c, xs, r, hrun, h => by
    cases hrun with
    | stop hs => simp [nextWithin, hs] at h
    | fail hs => simp [nextWithin, hs] at h
    | @give _ i c₀ xs' _ hs hrest =>
      cases hp : passBelow c₀ (d.excluded.remaining + 1) d.excluded with
      | error e => simp [nextWithin, hs, hp] at h
      | ok q =>
        obtain ⟨e, o⟩ := q
        by_cases ho : o = some .eq
        · -- the value is dropped and the next pull starts from the rest of the base
          by_cases hb : b = 0
          · simp [nextWithin, hs, hp, ho, hb] at h
          · have h' : nextWithin ⟨i, e⟩ b = .ok (some (c, d')) := by
              simpa [nextWithin, hs, hp, ho, hb] using h
            obtain ⟨ys, hys, hlen⟩ := nextWithin_base hrest h'
            exact ⟨ys, hys, by simp only [List.length_cons]; omega⟩
        · -- the value is kept and the rest of the base is left
          simp [nextWithin, hs, hp, ho] at h
          obtain ⟨rfl, rfl⟩ := h
          exact ⟨xs', hrest, by simp⟩

theorem stops_of_base {d : Difference σ τ α} {xs : List α} {r : Option CalendarError}
    (h : Source.Run d.base xs r) : Source.Stops d :=
  Source.stops_of_inner Difference.base (fun h hs => nextWithin_base h hs) h

end Difference

/-! ## The occurrences of a definition -/

namespace Combined

theorem nextKept_inner (days : List Date) : ∀ {fuel : Nat} {d d' : Difference Side Side ZonedTime}
    {t : ZonedTime} {xs : List ZonedTime} {r : Option CalendarError}, Source.Run d xs r →
    nextKept days fuel d = .ok (some (t, d')) → ∃ ys, Source.Run d' ys r ∧ ys.length < xs.length
  | 0, _, _, _, _, _, _, h => by simp [nextKept] at h
  | fuel + 1, d, d', t, xs, r, hrun, h => by
    cases hrun with
    | stop hs => simp [nextKept, hs] at h
    | fail hs => simp [nextKept, hs] at h
    | @give _ d₁ t₀ xs' _ hs hrest =>
      by_cases hday : t₀.wall.date ∈ days
      · -- a value on an excluded day is passed
        have h' : nextKept days fuel d₁ = .ok (some (t, d')) := by
          simpa [nextKept, hs, hday] using h
        obtain ⟨ys, hys, hlen⟩ := nextKept_inner days hrest h'
        exact ⟨ys, hys, by simp only [List.length_cons]; omega⟩
      · simp [nextKept, hs, hday] at h
        obtain ⟨rfl, rfl⟩ := h
        exact ⟨xs', hrest, by simp⟩

theorem next?_eq_some {c c' : Combined} {t : ZonedTime} (h : Source.next? c = .ok (some (t, c'))) :
    ∃ d', nextKept c.excludedDays (Source.remaining c.inner + 1) c.inner = .ok (some (t, d')) ∧
      c' = ⟨d', c.excludedDays⟩ := by
  rw [next?_eq] at h
  cases hk : nextKept c.excludedDays (Source.remaining c.inner + 1) c.inner with
  | error e => simp [hk] at h
  | ok o =>
    cases o with
    | none => simp [hk] at h
    | some p =>
      obtain ⟨t', d⟩ := p
      simp only [hk, bind, Except.bind, pure, Except.pure, Except.ok.injEq, Option.some.injEq,
        Prod.mk.injEq] at h
      obtain ⟨rfl, rfl⟩ := h
      exact ⟨d, rfl, rfl⟩

/-- The occurrences stop when the difference inside them stops. -/
theorem stops_of_inner {c : Combined} {xs : List ZonedTime} {r : Option CalendarError}
    (h : Source.Run c.inner xs r) : Source.Stops c :=
  Source.stops_of_inner Combined.inner (fun h hs => by
    obtain ⟨d', hk, rfl⟩ := next?_eq_some hs
    exact nextKept_inner _ h hk) h

end Combined

namespace Definition

variable (d : Definition) (z : TimeZone) (a : ZonedTime) (H : Option ZonedTime)

theorem side_stops {o : Option Rule} (dates : List ZonedTime) :
    Source.Stops (Union.ofSources (o.map (ruleWalk z a H)) dates : Side) := by
  obtain ⟨xs, r, hxs⟩ := OptionWalk.stops (ordered_ruleWalk z a o)
  exact Union.stops_of_runs (u := Union.ofSources _ dates) hxs (Source.run_list dates)

/-- Evaluation of a definition stops: in every zone, from every anchor and with or without a
horizon, its walks, the difference and the occurrences end or fail with a calendar error. -/
theorem occurrences_stop :
    (∀ r ∈ d.rrule, Source.Stops (ruleWalk z a H r)) ∧
    (∀ r ∈ d.exrule, Source.Stops (ruleWalk z a H r)) ∧
    Source.Stops (Union.ofSources (d.rrule.map (ruleWalk z a H)) (d.includedDates z a) : Side) ∧
    Source.Stops (Union.ofSources (d.exrule.map (ruleWalk z a H)) (d.excludedDates z a) : Side) ∧
    Source.Stops (d.occurrences z a H).inner ∧ Source.Stops (d.occurrences z a H) := by
  have hwalk : ∀ r, Source.Stops (ruleWalk z a H r) := fun r =>
    Walk.stops ((Walk.ordered_start r z a).withHorizon H)
  obtain ⟨xs, r, hbase⟩ := side_stops z a H (o := d.rrule) (d.includedDates z a)
  have hinner : Source.Stops (d.occurrences z a H).inner := by
    rw [occurrences_inner]
    exact Difference.stops_of_base hbase
  obtain ⟨ys, r', hrun⟩ := hinner
  exact ⟨fun r _ => hwalk r, fun r _ => hwalk r, ⟨xs, r, hbase⟩, side_stops z a H _,
    ⟨ys, r', hrun⟩, Combined.stops_of_inner hrun⟩

end Definition

end Cadence
