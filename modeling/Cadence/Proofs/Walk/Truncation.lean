import Cadence.Proofs.Walk.PeriodBounds
import Cadence.Proofs.Zone.Search

/-!
# A bound truncates the walk

A rule bounded by `UNTIL`, by a horizon or by `COUNT` gives the values that the same rule
without a bound gives, cut to the longest prefix no later than the end and then to the first
`COUNT` of them (`Walk.take_bounded`). The two walks are followed in lockstep. A period's
candidates are kept by the same test in both (`keep`); the bounded walk keeps a prefix of
them and stops either inside the period, at an instant past the end or at the count, or
before a period that starts more than a day after the end's date. At that last stop, every
candidate still to come lies more than a day past the end on the wall clock, so it resolves
past the end in any zone that never turns its clock back by more than a day.
-/

namespace Cadence

/-! ## Values a source gives -/

namespace Source

variable {σ α : Type} [Source σ α]

/-- The values a source gives in at most `n` pulls, up to its end or its first failure. -/
def given (s : σ) : Nat → List α
  | 0 => []
  | n + 1 =>
    match next? s with
    | .ok (some (a, s')) => a :: given s' n
    | _ => []

theorem map_map_except {ε β γ δ : Type} (x : Except ε β) (f : β → γ) (g : γ → δ) :
    (x.map f).map g = x.map (g ∘ f) := by
  cases x <;> rfl

theorem takeOnto_eq (acc : List α) (s : σ) (n : Nat) :
    takeOnto acc s n = (takeOnto [] s n).map (acc.reverse ++ ·) := by
  induction n generalizing acc s with
  | zero => simp [takeOnto, Except.map]
  | succ n ih =>
    unfold takeOnto
    cases h : next? s with
    | error e => rfl
    | ok o =>
      cases o with
      | none => simp [Except.map]
      | some p =>
        obtain ⟨a, s'⟩ := p
        simp only
        rw [ih (a :: acc), ih [a], map_map_except]
        congr 1
        funext l
        simp

theorem take_zero (s : σ) : take s 0 = .ok ([] : List α) := rfl

theorem take_succ_of_error {s : σ} {e : CalendarError} (h : next? s = .error e) (n : Nat) :
    take s (n + 1) = (.error e : Except CalendarError (List α)) := by
  simp [take, takeOnto, h]

theorem take_succ_of_none {s : σ} (h : next? s = .ok (none : Option (α × σ))) (n : Nat) :
    take s (n + 1) = .ok ([] : List α) := by
  simp [take, takeOnto, h]

theorem take_succ_of_some {s s' : σ} {a : α} (h : next? s = .ok (some (a, s'))) (n : Nat) :
    take s (n + 1) = (take s' n).map (a :: ·) := by
  simp only [take, takeOnto, h]
  rw [takeOnto_eq]
  rfl

theorem take_succ_congr {s s' : σ} (h : next? s = next? s') (n : Nat) :
    take s (n + 1) = take s' (n + 1) := by
  simp only [take, takeOnto, h]

@[simp] theorem given_zero (s : σ) : given s 0 = [] := rfl

theorem given_succ_of_some {s s' : σ} {a : α} (h : next? s = .ok (some (a, s'))) (n : Nat) :
    given s (n + 1) = a :: given s' n := by
  simp [given, h]

theorem given_succ_of_none {s : σ} (h : next? s = .ok (none : Option (α × σ))) (n : Nat) :
    given s (n + 1) = [] := by
  simp [given, h]

theorem given_succ_of_error {s : σ} {e : CalendarError} (h : next? s = .error e) (n : Nat) :
    given s (n + 1) = [] := by
  simp [given, h]

theorem given_succ_congr {s s' : σ} (h : next? s = next? s') (n : Nat) :
    given s (n + 1) = given s' (n + 1) := by
  simp only [given, h]

theorem length_given_le (s : σ) (n : Nat) : (given s n).length ≤ n := by
  induction n generalizing s with
  | zero => simp
  | succ n ih =>
    unfold given
    split
    · simpa using ih _
    · simp

theorem given_of_take {s : σ} {n : Nat} {xs : List α} (h : take s n = .ok xs) :
    given s n = xs := by
  induction n generalizing s xs with
  | zero =>
    cases h
    rfl
  | succ n ih =>
    cases hs : next? s with
    | error e => rw [take_succ_of_error hs] at h; cases h
    | ok o =>
      cases o with
      | none =>
        rw [take_succ_of_none hs] at h
        cases h
        exact given_succ_of_none hs n
      | some p =>
        obtain ⟨a, s'⟩ := p
        rw [take_succ_of_some hs] at h
        cases ht : take s' n with
        | error e => rw [ht] at h; cases h
        | ok ys =>
          rw [ht] at h
          cases h
          rw [given_succ_of_some hs, ih ht]

theorem forall_given (P : σ → Prop) (Q : α → Prop)
    (hstep : ∀ s a s', P s → next? s = .ok (some (a, s')) → Q a ∧ P s') :
    ∀ (n : Nat) (s : σ), P s → ∀ a ∈ given s n, Q a := by
  intro n
  induction n with
  | zero => simp
  | succ n ih =>
    intro s hs
    cases h : next? s with
    | error e => simp [given_succ_of_error h]
    | ok o =>
      cases o with
      | none => simp [given_succ_of_none h]
      | some p =>
        obtain ⟨a, s'⟩ := p
        obtain ⟨ha, hs'⟩ := hstep s a s' hs h
        rw [given_succ_of_some h]
        intro b hb
        rcases List.mem_cons.1 hb with rfl | hb
        · exact ha
        · exact ih s' hs' b hb

end Source

/-! ## Cutting a list of values at an end and a count -/

/-- The first `k` values when a count `k` is given, all of them otherwise. -/
def takeCount {α : Type} (k : Option Nat) (xs : List α) : List α :=
  xs.take (k.getD xs.length)

/-- A zoned time no later than the end, when there is one. -/
def Within (B : Option ZonedTime) (t : ZonedTime) : Bool :=
  B.all fun b => decide (t.instant ≤ b.instant)

/-- The values of a walk bounded at `B` with `k` values allowed: the longest prefix no later
than `B`, then its first `k`. -/
def cutAt (B : Option ZonedTime) (k : Option Nat) (xs : List ZonedTime) : List ZonedTime :=
  takeCount k (xs.takeWhile (Within B))

/-- A list of values that already decides its cut: one of them is past the end, or the
count is used up by those before it. -/
def Closed (B : Option ZonedTime) (k : Option Nat) (xs : List ZonedTime) : Prop :=
  (xs.takeWhile (Within B)).length < xs.length ∨
    ∃ n, k = some n ∧ n ≤ (xs.takeWhile (Within B)).length

theorem takeCount_none {α : Type} (xs : List α) : takeCount none xs = xs := by
  simp [takeCount]

theorem takeCount_take {α : Type} (k : Option Nat) (xs : List α) (n : Nat) :
    takeCount k (xs.take n) = (takeCount k xs).take n := by
  cases k with
  | none => simp [takeCount]
  | some k => simp [takeCount, List.take_take, Nat.min_comm]

theorem takeWhile_take {α : Type} (p : α → Bool) :
    ∀ (xs : List α) (n : Nat), (xs.take n).takeWhile p = (xs.takeWhile p).take n
  | [], n => by simp
  | x :: xs, 0 => by simp
  | x :: xs, n + 1 => by
    simp only [List.take_succ_cons, List.takeWhile_cons]
    split
    · simp [takeWhile_take p xs n]
    · simp

theorem cutAt_take (B : Option ZonedTime) (k : Option Nat) (xs : List ZonedTime) (n : Nat) :
    cutAt B k (xs.take n) = (cutAt B k xs).take n := by
  rw [cutAt, cutAt, ← takeCount_take, takeWhile_take]

theorem Closed.cutAt_append {B : Option ZonedTime} {k : Option Nat} {xs : List ZonedTime}
    (h : Closed B k xs) (ys : List ZonedTime) : cutAt B k (xs ++ ys) = cutAt B k xs := by
  unfold cutAt
  rw [List.takeWhile_append]
  split
  · rename_i hall
    -- every value of `xs` is within the end, so the count is used up inside `xs`
    have hself : xs.takeWhile (Within B) = xs := (List.takeWhile_prefix _).eq_of_length hall
    rcases h with hpast | ⟨n, rfl, hn⟩
    · omega
    · rw [hself] at hn ⊢
      simp only [takeCount, Option.getD_some]
      rw [List.take_append_of_le_length hn]
  · rfl

theorem cutAt_cons_of_within {B : Option ZonedTime} {k : Option Nat} {x : ZonedTime}
    {xs : List ZonedTime} (hx : Within B x = true) (hk : k ≠ some 0) :
    cutAt B k (x :: xs) = x :: cutAt B (k.map (· - 1)) xs := by
  simp only [cutAt, List.takeWhile_cons, hx, if_true, takeCount]
  cases k with
  | none => simp
  | some k =>
    obtain ⟨k, rfl⟩ : ∃ j, k = j + 1 := ⟨k - 1, by simp at hk; omega⟩
    simp

theorem cutAt_cons_of_past {B : Option ZonedTime} {k : Option Nat} {x : ZonedTime}
    {xs : List ZonedTime} (hx : Within B x = false) : cutAt B k (x :: xs) = [] := by
  simp [cutAt, hx, takeCount]

theorem closed_cons_of_within {B : Option ZonedTime} {k : Option Nat} {x : ZonedTime}
    {xs : List ZonedTime} (hx : Within B x = true) (hk : k ≠ some 0) :
    Closed B k (x :: xs) ↔ Closed B (k.map (· - 1)) xs := by
  simp only [Closed, List.takeWhile_cons, hx, if_true, List.length_cons]
  cases k with
  | none => simp
  | some k =>
    obtain ⟨k, rfl⟩ : ∃ j, k = j + 1 := ⟨k - 1, by simp at hk; omega⟩
    simp only [Option.some.injEq, exists_eq_left', Option.map_some]
    omega

theorem closed_cons_of_past {B : Option ZonedTime} {k : Option Nat} {x : ZonedTime}
    {xs : List ZonedTime} (hx : Within B x = false) : Closed B k (x :: xs) :=
  .inl (by simp [hx])

theorem not_closed_nil {B : Option ZonedTime} {k : Option Nat} (hk : k ≠ some 0) :
    ¬ Closed B k [] := by
  rintro (h | ⟨n, rfl, hn⟩)
  · simp at h
  · simp at hn
    exact hk (by rw [hn])

theorem cutAt_of_not_closed {B : Option ZonedTime} {k : Option Nat} {xs : List ZonedTime}
    (h : ¬ Closed B k xs) :
    (∀ x ∈ xs, Within B x = true) ∧ cutAt B k xs = xs ∧ k.map (· - xs.length) ≠ some 0 := by
  simp only [Closed, not_or, not_exists, not_and, not_le, not_lt] at h
  obtain ⟨hlen, hcount⟩ := h
  have hself : xs.takeWhile (Within B) = xs :=
    (List.takeWhile_prefix _).eq_of_length (le_antisymm (List.takeWhile_prefix _).length_le hlen)
  refine ⟨List.takeWhile_eq_self_iff.1 hself, ?_, ?_⟩
  · rw [cutAt, hself]
    cases k with
    | none => simp [takeCount]
    | some k =>
      have := hcount k rfl
      rw [hself] at this
      simp [takeCount, List.take_of_length_le (le_of_lt this)]
  · cases k with
    | none => simp
    | some k =>
      have := hcount k rfl
      rw [hself] at this
      simp only [Option.map_some, ne_eq, Option.some.injEq]
      omega

theorem length_cutAt_le (B : Option ZonedTime) (k : Option Nat) (xs : List ZonedTime) :
    (cutAt B k xs).length ≤ xs.length := by
  unfold cutAt takeCount
  exact ((List.take_prefix _ _).trans (List.takeWhile_prefix _)).length_le

theorem cutAt_of_gt {b : ZonedTime} {k : Option Nat} :
    ∀ {xs : List ZonedTime}, (∀ x ∈ xs, b.instant < x.instant) → cutAt (some b) k xs = []
  | [], _ => by simp [cutAt, takeCount]
  | x :: _, h => cutAt_cons_of_past (by
      simp only [Within, Option.all_some, decide_eq_false_iff_not]
      exact Int.not_le.2 (h x List.mem_cons_self))

/-! ## What a period's candidates add to a walk -/

/-- The candidates a walk keeps, in order: those not before the anchor that resolve to an
instant later than the last one kept. -/
def keep (z : TimeZone) (anchor : WallTime) : Option Instant → List WallTime → List ZonedTime
  | _, [] => []
  | last, c :: cs =>
    if c < anchor then keep z anchor last cs
    else match z.resolve c with
      | none => keep z anchor last cs
      | some t =>
        if (last.map fun l => decide (t.instant ≤ l)) = some true then keep z anchor last cs
        else t :: keep z anchor (some t.instant) cs

/-- The instant of the last value kept, or the last before when none is. -/
def keepLast (z : TimeZone) (anchor : WallTime) (last : Option Instant) (cs : List WallTime) :
    Option Instant :=
  ((keep z anchor last cs).getLast?.map ZonedTime.instant).or last

/-! One step of `keep`, case by case: a candidate before the anchor, one the zone does not
resolve, one at or before the last instant kept, and one kept. -/

section KeepSteps

variable {z : TimeZone} {anchor : WallTime} {last : Option Instant} {c : WallTime}
  {cs : List WallTime} {t : ZonedTime}

theorem keep_cons_of_lt (hc : c < anchor) :
    keep z anchor last (c :: cs) = keep z anchor last cs := by
  simp only [keep, if_pos hc]

theorem keep_cons_of_none (hc : ¬ c < anchor) (hres : z.resolve c = none) :
    keep z anchor last (c :: cs) = keep z anchor last cs := by
  simp only [keep, if_neg hc, hres]

theorem keep_cons_of_le (hc : ¬ c < anchor) (hres : z.resolve c = some t)
    (hle : (last.map fun l => decide (t.instant ≤ l)) = some true) :
    keep z anchor last (c :: cs) = keep z anchor last cs := by
  simp only [keep, if_neg hc, hres, if_pos hle]

theorem keep_cons_of_kept (hc : ¬ c < anchor) (hres : z.resolve c = some t)
    (hle : ¬ (last.map fun l => decide (t.instant ≤ l)) = some true) :
    keep z anchor last (c :: cs) = t :: keep z anchor (some t.instant) cs := by
  simp only [keep, if_neg hc, hres, if_neg hle]

end KeepSteps

theorem keepLast_cons_of_kept {z : TimeZone} {anchor : WallTime} {last : Option Instant}
    {c : WallTime} {cs : List WallTime} {t : ZonedTime}
    (h : keep z anchor last (c :: cs) = t :: keep z anchor (some t.instant) cs) :
    keepLast z anchor last (c :: cs) = keepLast z anchor (some t.instant) cs := by
  unfold keepLast
  rw [h, List.getLast?_cons]
  cases (keep z anchor (some t.instant) cs).getLast? <;> rfl

theorem keepLast_cons_of_skipped {z : TimeZone} {anchor : WallTime} {last : Option Instant}
    {c : WallTime} {cs : List WallTime}
    (h : keep z anchor last (c :: cs) = keep z anchor last cs) :
    keepLast z anchor last (c :: cs) = keepLast z anchor last cs := by
  simp only [keepLast, h]

theorem mem_keep {z : TimeZone} {anchor : WallTime} :
    ∀ {last : Option Instant} {cs : List WallTime} {t : ZonedTime}, t ∈ keep z anchor last cs →
      ∃ c ∈ cs, ¬ c < anchor ∧ z.resolve c = some t
  | _, [], t, h => by cases h
  | last, c :: cs, t, h => by
    unfold keep at h
    split at h
    · obtain ⟨c', hc', h'⟩ := mem_keep h
      exact ⟨c', List.mem_cons_of_mem _ hc', h'⟩
    · rename_i hanchor
      split at h
      · obtain ⟨c', hc', h'⟩ := mem_keep h
        exact ⟨c', List.mem_cons_of_mem _ hc', h'⟩
      · rename_i t' ht'
        split at h
        · obtain ⟨c', hc', h'⟩ := mem_keep h
          exact ⟨c', List.mem_cons_of_mem _ hc', h'⟩
        · rcases List.mem_cons.1 h with rfl | h
          · exact ⟨c, List.mem_cons_self, hanchor, ht'⟩
          · obtain ⟨c', hc', h'⟩ := mem_keep h
            exact ⟨c', List.mem_cons_of_mem _ hc', h'⟩

theorem keepLast_mem {z : TimeZone} {anchor : WallTime} {last : Option Instant}
    {cs : List WallTime} {l : Instant} (h : keepLast z anchor last cs = some l) :
    (∃ t ∈ keep z anchor last cs, t.instant = l) ∨ last = some l := by
  unfold keepLast at h
  cases hk : (keep z anchor last cs).getLast? with
  | none =>
    rw [hk] at h
    exact .inr h
  | some t =>
    rw [hk] at h
    cases h
    exact .inl ⟨t, List.mem_of_getLast? hk, rfl⟩

/-! ## A rule's periods do not depend on its bound -/

theorem Rule.weekDates_withBound (r : Rule) (b : Bound) (d : Date) (ws : List Weekday) :
    ({ r with bound := b } : Rule).weekDates d ws = r.weekDates d ws := by
  induction ws with
  | nil => rfl
  | cons w ws ih => simp only [Rule.weekDates, ih]

theorem Rule.expandWeekly_withBound (r : Rule) (b : Bound) (a : WallTime) (i : Int) :
    ({ r with bound := b } : Rule).expandWeekly a i = r.expandWeekly a i := by
  simp only [Rule.expandWeekly, Rule.weekDates_withBound]
  rfl

theorem Rule.expand_withBound (r : Rule) (b : Bound) :
    ({ r with bound := b } : Rule).expand = r.expand := by
  funext a i
  unfold Rule.expand
  -- only the weekly expansion recurses, over the weekdays; the others unfold to the same terms
  rw [Rule.expandWeekly_withBound]
  rfl

namespace Walk

theorem lt_of_not_le_last {last : Option Instant} {t : ZonedTime}
    (h : ¬ (last.map fun l => decide (t.instant ≤ l)) = some true) :
    ∀ l ∈ last, l < t.instant := by
  intro l hl
  rw [Option.mem_def] at hl
  simp only [hl, Option.map_some, Option.some.injEq, decide_eq_true_eq] at h
  exact Int.not_le.1 h

theorem absorb_keeps (P : Walk → Prop) (cs : List WallTime)
    (hfin : ∀ {w : Walk}, P w → P { w with finished := true })
    (hkeep : ∀ {w : Walk} {c : WallTime} {t : ZonedTime}, P w → c ∈ cs → ¬ c < w.anchor →
      w.zone.resolve c = some t → (∀ l ∈ w.last, l < t.instant) → ∀ (r : Option Nat) (f : Bool),
        P { w with
          last := some t.instant, buffer := w.buffer.push t, remaining := r, finished := f }) :
    ∀ {w : Walk}, P w → P (w.absorb cs) := by
  intro w hw
  -- one case per branch of `absorb`; the candidates still to come are among `cs`
  fun_induction w.absorb cs with
  | case1 => exact hw
  | case2 w c cs hc ih => exact ih (fun hv hc' => hkeep hv (List.mem_cons_of_mem _ hc')) hw
  | case3 w c cs hc hres ih => exact ih (fun hv hc' => hkeep hv (List.mem_cons_of_mem _ hc')) hw
  | case4 => exact hfin hw
  | case5 w c cs hc t hres hpast hlast ih =>
    exact ih (fun hv hc' => hkeep hv (List.mem_cons_of_mem _ hc')) hw
  | case6 w c cs hc t hres hpast hlast =>
    exact hkeep hw List.mem_cons_self hc hres (lt_of_not_le_last hlast) _ _
  | case7 w c cs hc t hres hpast hlast w' k hR hk ih =>
    exact ih (fun hv hc' => hkeep hv (List.mem_cons_of_mem _ hc'))
      (hkeep hw List.mem_cons_self hc hres (lt_of_not_le_last hlast) _ _)
  | case8 w c cs hc t hres hpast hlast w' hR ih =>
    exact ih (fun hv hc' => hkeep hv (List.mem_cons_of_mem _ hc'))
      (hkeep hw List.mem_cons_self hc hres (lt_of_not_le_last hlast) _ _)

theorem absorb_frame (w : Walk) (cs : List WallTime) :
    (w.absorb cs).rule = w.rule ∧ (w.absorb cs).zone = w.zone ∧
      (w.absorb cs).anchor = w.anchor ∧ (w.absorb cs).upTo = w.upTo ∧
      (w.absorb cs).period = w.period ∧ (w.absorb cs).pos = w.pos :=
  absorb_keeps (fun v => v.rule = w.rule ∧ v.zone = w.zone ∧ v.anchor = w.anchor ∧
      v.upTo = w.upTo ∧ v.period = w.period ∧ v.pos = w.pos) cs id
    (fun hv _ _ _ _ _ _ => hv) ⟨rfl, rfl, rfl, rfl, rfl, rfl⟩

theorem absorb_unbounded {w : Walk} (hu : w.upTo = none) (hr : w.remaining = none)
    (cs : List WallTime) :
    (w.absorb cs).buffer.toList = w.buffer.toList ++ keep w.zone w.anchor w.last cs ∧
      (w.absorb cs).last = keepLast w.zone w.anchor w.last cs ∧
      (w.absorb cs).finished = w.finished ∧ (w.absorb cs).remaining = none := by
  fun_induction w.absorb cs with
  | case1 w => simp [keep, keepLast, hr]
  | case2 w c cs hc ih =>
    have hk : keep w.zone w.anchor w.last (c :: cs) = keep w.zone w.anchor w.last cs :=
      keep_cons_of_lt hc
    rw [hk, keepLast_cons_of_skipped hk]
    exact ih hu hr
  | case3 w c cs hc hres ih =>
    have hk : keep w.zone w.anchor w.last (c :: cs) = keep w.zone w.anchor w.last cs :=
      keep_cons_of_none hc hres
    rw [hk, keepLast_cons_of_skipped hk]
    exact ih hu hr
  | case4 w c cs hc t hres hpast =>
    simp [hu] at hpast
  | case5 w c cs hc t hres hpast hlast ih =>
    have hk : keep w.zone w.anchor w.last (c :: cs) = keep w.zone w.anchor w.last cs :=
      keep_cons_of_le hc hres hlast
    rw [hk, keepLast_cons_of_skipped hk]
    exact ih hu hr
  | case6 w c cs hc t hres hpast hlast w' hR =>
    simp [w', hr] at hR
  | case7 w c cs hc t hres hpast hlast w' k hR => simp [w', hr] at hR
  | case8 w c cs hc t hres hpast hlast w' hR ih =>
    -- the candidate is kept: pushed, and the last instant from here on
    have hk : keep w.zone w.anchor w.last (c :: cs) =
        t :: keep w.zone w.anchor (some t.instant) cs := keep_cons_of_kept hc hres hlast
    obtain ⟨hb, hl, hf, hrem⟩ := ih hu hr
    refine ⟨?_, ?_, hf, hrem⟩
    · rw [hb, hk]
      simp [w']
    · rw [hl, keepLast_cons_of_kept hk]

theorem Within.le {B : Option ZonedTime} {t b : ZonedTime} (h : Within B t = true) (hb : b ∈ B) :
    t.instant ≤ b.instant := by
  rw [Option.mem_def] at hb
  rw [hb] at h
  simpa [Within] using h

theorem within_of_not_past {B : Option ZonedTime} {t : ZonedTime}
    (h : ¬ (B.map fun u => decide (t.instant > u.instant)) = some true) : Within B t = true := by
  cases B with
  | none => rfl
  | some b =>
    simp only [Option.map_some, Option.some.injEq, decide_eq_true_eq] at h
    simp only [Within, Option.all_some, decide_eq_true_eq]
    show t.instant.nanos ≤ b.instant.nanos
    exact Int.not_lt.1 h

theorem within_of_past {B : Option ZonedTime} {t : ZonedTime}
    (h : (B.map fun u => decide (t.instant > u.instant)) = some true) : Within B t = false := by
  cases B with
  | none => cases h
  | some b =>
    simp only [Option.map_some, Option.some.injEq, decide_eq_true_eq] at h
    simp only [Within, Option.all_some, decide_eq_false_iff_not]
    exact Int.not_le.2 h

theorem not_le_last_of_past {B : Option ZonedTime} {last : Option Instant} {t : ZonedTime}
    (hlast : ∀ l ∈ last, ∀ b ∈ B, l ≤ b.instant)
    (h : (B.map fun u => decide (t.instant > u.instant)) = some true) :
    ¬ (last.map fun l => decide (t.instant ≤ l)) = some true := by
  cases B with
  | none => cases h
  | some b =>
    cases last with
    | none => simp
    | some l =>
      simp only [Option.map_some, Option.some.injEq, decide_eq_true_eq] at h ⊢
      have hl : l.nanos ≤ b.instant.nanos := hlast l rfl b rfl
      show ¬ t.instant.nanos ≤ l.nanos
      have : b.instant.nanos < t.instant.nanos := h
      omega

theorem absorb_bounded {w : Walk} (hr : w.remaining ≠ some 0) (hf : w.finished = false)
    (hlast : ∀ l ∈ w.last, ∀ b ∈ w.upTo, l ≤ b.instant) (cs : List WallTime) :
    (w.absorb cs).buffer.toList =
        w.buffer.toList ++ cutAt w.upTo w.remaining (keep w.zone w.anchor w.last cs) ∧
      ((w.absorb cs).finished = true ↔
        Closed w.upTo w.remaining (keep w.zone w.anchor w.last cs)) ∧
      ((w.absorb cs).finished = false →
        (w.absorb cs).last = keepLast w.zone w.anchor w.last cs ∧
        (w.absorb cs).remaining =
          w.remaining.map (· - (keep w.zone w.anchor w.last cs).length)) := by
  fun_induction w.absorb cs with
  | case1 w =>
    simp only [keep, hf, Bool.false_eq_true, false_iff]
    refine ⟨by simp [cutAt, takeCount], not_closed_nil hr, fun _ => ⟨by simp [keepLast, keep], ?_⟩⟩
    cases w.remaining <;> simp
  | case2 w c cs hc ih =>
    have hk : keep w.zone w.anchor w.last (c :: cs) = keep w.zone w.anchor w.last cs :=
      keep_cons_of_lt hc
    rw [hk, keepLast_cons_of_skipped hk]
    exact ih hr hf hlast
  | case3 w c cs hc hres ih =>
    have hk : keep w.zone w.anchor w.last (c :: cs) = keep w.zone w.anchor w.last cs :=
      keep_cons_of_none hc hres
    rw [hk, keepLast_cons_of_skipped hk]
    exact ih hr hf hlast
  | case4 w c cs hc t hres hpast =>
    -- the candidate resolves past the end: the walk ends and keeps nothing more
    have hwithin := within_of_past hpast
    rw [keep_cons_of_kept hc hres (not_le_last_of_past hlast hpast), cutAt_cons_of_past hwithin]
    exact ⟨by simp, iff_of_true rfl (closed_cons_of_past hwithin), fun h => by cases h⟩
  | case5 w c cs hc t hres hpast hle ih =>
    have hk : keep w.zone w.anchor w.last (c :: cs) = keep w.zone w.anchor w.last cs :=
      keep_cons_of_le hc hres hle
    rw [hk, keepLast_cons_of_skipped hk]
    exact ih hr hf hlast
  | case6 w c cs hc t hres hpast hle w' hR =>
    have hwithin := within_of_not_past hpast
    have hR : w.remaining = some 1 := hR
    rw [keep_cons_of_kept hc hres hle, hR]
    refine ⟨?_, ?_, fun h => by cases h⟩
    · simp [w', cutAt, takeCount, hwithin]
    · exact iff_of_true rfl (.inr ⟨1, rfl, by simp [hwithin]⟩)
  | case7 w c cs hc t hres hpast hle w' k hR hk ih =>
    dsimp only [w'] at ih
    have hwithin := within_of_not_past hpast
    have hR : w.remaining = some (k + 1) := hR
    have hkeep : keep w.zone w.anchor w.last (c :: cs) =
        t :: keep w.zone w.anchor (some t.instant) cs := keep_cons_of_kept hc hres hle
    obtain ⟨hb, hfin, hrest⟩ := ih (by simpa using hk) hf
      (fun l hl b hb => by cases hl; exact Within.le hwithin hb)
    rw [hkeep, keepLast_cons_of_kept hkeep, hR]
    refine ⟨?_, ?_, fun h => ?_⟩
    · rw [hb, cutAt_cons_of_within hwithin (by simp)]
      simp
    · rw [hfin, closed_cons_of_within hwithin (by simp)]
      rfl
    · obtain ⟨hl, hrem⟩ := hrest h
      refine ⟨hl, ?_⟩
      rw [hrem]
      simp only [Option.map_some, List.length_cons, Option.some.injEq]
      omega
  | case8 w c cs hc t hres hpast hle w' hR ih =>
    have hwithin := within_of_not_past hpast
    have hnone : w.remaining = none := by
      cases h : w.remaining with
      | none => rfl
      | some k =>
        cases k with
        | zero => exact absurd h hr
        | succ k => exact absurd h (hR k)
    have hkeep : keep w.zone w.anchor w.last (c :: cs) =
        t :: keep w.zone w.anchor (some t.instant) cs := keep_cons_of_kept hc hres hle
    dsimp only [w'] at ih ⊢
    rw [hkeep, keepLast_cons_of_kept hkeep]
    rw [hnone] at ih ⊢
    obtain ⟨hb, hfin, hrest⟩ := ih (by simp) hf
      (fun l hl b hb => by cases hl; exact Within.le hwithin hb)
    refine ⟨?_, ?_, fun h => ?_⟩
    · rw [hb, cutAt_cons_of_within hwithin (by simp)]
      simp
    · rw [hfin, closed_cons_of_within hwithin (by simp)]
      rfl
    · obtain ⟨hl, hrem⟩ := hrest h
      exact ⟨hl, by simp [hrem]⟩

/-! ## Giving values: the buffer, then a fill -/

attribute [ext] Walk

/-- The values found and not yet given. -/
def pending (w : Walk) : List ZonedTime := w.buffer.toList.drop w.pos

theorem pending_eq_nil {w : Walk} (h : w.buffer.size ≤ w.pos) : w.pending = [] := by
  simp [pending, h]

theorem pending_of_lt {w : Walk} (h : w.pos < w.buffer.size) :
    w.pending = w.buffer[w.pos] :: ({ w with pos := w.pos + 1 } : Walk).pending := by
  simp only [pending]
  rw [List.drop_eq_getElem_cons (by simpa using h)]
  simp

theorem next?_of_lt {w : Walk} (h : w.pos < w.buffer.size) :
    next? w = .ok (some (w.buffer[w.pos], { w with pos := w.pos + 1 })) := by
  simp [next?, h]

/-- The walk after expanding the period `p`: its candidates absorbed into an empty buffer. -/
def absorbPeriod (w : Walk) (p : Period) : Walk :=
  ({ w with period := p.next, buffer := #[], pos := 0 } : Walk).absorb p.candidates

/-! One step of a fill, case by case. A walk with nothing left to give and not ended expands
its next period; it ends when there is none or when the period starts past its end, and
otherwise absorbs the period's candidates. -/

section FillSteps

variable {w : Walk} {fuel : Nat}

theorem fill_succ_of_ready (h : w.pos < w.buffer.size ∨ w.finished = true) :
    w.fill (fuel + 1) = .ok w := by
  rw [fill, if_pos (by simpa using h)]
  rfl

theorem fill_succ_of_error (hpos : w.buffer.size ≤ w.pos) (hf : w.finished = false)
    {e : CalendarError} (he : w.rule.expand w.anchor w.period = .error e) :
    w.fill (fuel + 1) = .error e := by
  rw [fill, if_neg (by simp [hf]; omega), he]
  rfl

theorem fill_succ_of_none (hpos : w.buffer.size ≤ w.pos) (hf : w.finished = false)
    (he : w.rule.expand w.anchor w.period = .ok none) :
    w.fill (fuel + 1) = .ok { w with finished := true } := by
  rw [fill, if_neg (by simp [hf]; omega), he]
  rfl

theorem fill_succ_of_past (hpos : w.buffer.size ≤ w.pos) (hf : w.finished = false) {p : Period}
    (he : w.rule.expand w.anchor w.period = .ok (some p)) (hp : w.pastEnd p.start = .ok true) :
    w.fill (fuel + 1) = .ok { w with finished := true } := by
  rw [fill, if_neg (by simp [hf]; omega), he]
  simp only [Except.ok_bind, hp]
  rfl

theorem fill_succ_of_pastEnd_error (hpos : w.buffer.size ≤ w.pos) (hf : w.finished = false)
    {p : Period} (he : w.rule.expand w.anchor w.period = .ok (some p)) {e : CalendarError}
    (hp : w.pastEnd p.start = .error e) : w.fill (fuel + 1) = .error e := by
  rw [fill, if_neg (by simp [hf]; omega), he]
  simp only [Except.ok_bind, hp]
  rfl

theorem fill_succ_of_absorb (hpos : w.buffer.size ≤ w.pos) (hf : w.finished = false)
    {p : Period} (he : w.rule.expand w.anchor w.period = .ok (some p))
    (hp : w.pastEnd p.start = .ok false) :
    w.fill (fuel + 1) =
      if (w.absorbPeriod p).buffer.size = 0 then
        (if fuel = 0 then .ok { w.absorbPeriod p with finished := true }
          else (w.absorbPeriod p).fill fuel)
      else .ok (w.absorbPeriod p) := by
  rw [fill, if_neg (by simp [hf]; omega), he]
  simp only [Except.ok_bind, hp]
  rfl

end FillSteps

theorem fill_ready {w w' : Walk} : ∀ {fuel : Nat}, w.fill fuel = .ok w' →
    w'.pos < w'.buffer.size ∨ w'.finished = true
  | 0, h => by
    cases h
    exact .inr rfl
  | fuel + 1, h => by
    unfold fill at h
    split at h
    · rename_i hready
      cases h
      simpa using hready
    · obtain ⟨o, -, h⟩ := Except.bind_eq_ok.1 h
      split at h
      · cases h
        exact .inr rfl
      · obtain ⟨stop, -, h⟩ := Except.bind_eq_ok.1 h
        split at h
        · cases h
          exact .inr rfl
        · dsimp only at h
          split at h
          · split at h
            · cases h
              exact .inr rfl
            · exact fill_ready h
          · cases h
            left
            rename_i p _ _ _
            have hpos := (absorb_frame ({ w with period := p.next, buffer := #[], pos := 0 } : Walk)
              p.candidates).2.2.2.2.2
            dsimp only at hpos
            omega

theorem next?_of_finished {w : Walk} (hf : w.finished = true) (h : w.buffer.size ≤ w.pos) :
    next? w = .ok none := by
  have hnot : ¬ w.pos < w.buffer.size := by omega
  simp [next?, hnot, fill, maxEmptyPeriods, hf]

theorem next?_of_le {w : Walk} (h : w.buffer.size ≤ w.pos) :
    next? w = w.fill maxEmptyPeriods >>= next? := by
  have hnot : ¬ w.pos < w.buffer.size := by omega
  cases hfill : w.fill maxEmptyPeriods with
  | error e => simp [next?, hnot, hfill]
  | ok w' =>
    rw [next?]
    simp only [hnot, if_false, hfill, Except.ok_bind]
    by_cases hlt : w'.pos < w'.buffer.size
    · rw [next?_of_lt hlt]
      simp [hlt]
    · have hfin := (fill_ready hfill).resolve_left hlt
      rw [next?_of_finished hfin (by omega)]
      simp [hlt]

theorem take_of_fill {w w' : Walk} (h : w.buffer.size ≤ w.pos)
    (hfill : w.fill maxEmptyPeriods = .ok w') (n : Nat) :
    Source.take w (n + 1) = Source.take w' (n + 1) :=
  Source.take_succ_congr (by show next? w = next? w'; rw [next?_of_le h, hfill]; rfl) n

theorem given_of_fill {w w' : Walk} (h : w.buffer.size ≤ w.pos)
    (hfill : w.fill maxEmptyPeriods = .ok w') (n : Nat) :
    Source.given w (n + 1) = Source.given w' (n + 1) :=
  Source.given_succ_congr (by show next? w = next? w'; rw [next?_of_le h, hfill]; rfl) n

theorem take_of_fill_error {w : Walk} {e : CalendarError} (h : w.buffer.size ≤ w.pos)
    (hfill : w.fill maxEmptyPeriods = .error e) (n : Nat) :
    Source.take w (n + 1) = .error e :=
  Source.take_succ_of_error (by show next? w = _; rw [next?_of_le h, hfill]; rfl) n

theorem take_of_finished {w : Walk} (hf : w.finished = true) (n : Nat) :
    Source.take w n = .ok (w.pending.take n) := by
  induction n generalizing w with
  | zero => rfl
  | succ n ih =>
    by_cases h : w.pos < w.buffer.size
    · rw [Source.take_succ_of_some (next?_of_lt h), ih (by exact hf), pending_of_lt h]
      rfl
    · rw [Source.take_succ_of_none (next?_of_finished hf (by omega)), pending_eq_nil (by omega)]
      rfl

theorem given_pending (w : Walk) (n : Nat) :
    Source.given w n = w.pending.take n ∨ ∃ rest, Source.given w n = w.pending ++ rest := by
  induction n generalizing w with
  | zero => exact .inl rfl
  | succ n ih =>
    by_cases h : w.pos < w.buffer.size
    · rw [Source.given_succ_of_some (next?_of_lt h), pending_of_lt h]
      rcases ih { w with pos := w.pos + 1 } with h' | ⟨rest, h'⟩
      · exact .inl (by rw [h']; rfl)
      · exact .inr ⟨rest, by rw [h']; rfl⟩
    · rw [pending_eq_nil (by omega)]
      exact .inr ⟨_, rfl⟩

/-! ## Invariants of walks

A property of walks that ending a walk keeps, and absorbing the period it expands next keeps, is
kept by a fill; a step gives a value found, after a fill when none was left. Each invariant
below is proved kept by a step from these two lemmas. -/

theorem fill_keeps (P : Walk → Prop) (hfin : ∀ {w : Walk}, P w → P { w with finished := true })
    (habs : ∀ {w : Walk} {p : Period}, P w → w.rule.expand w.anchor w.period = .ok (some p) →
      P (w.absorbPeriod p)) :
    ∀ {fuel : Nat} {w w' : Walk}, P w → w.fill fuel = .ok w' → P w'
  | 0, _, _, hw, h => by
    cases h
    exact hfin hw
  | fuel + 1, w, _, hw, h => by
    by_cases hready : w.pos < w.buffer.size ∨ w.finished = true
    · rw [fill_succ_of_ready hready] at h
      cases h
      exact hw
    simp only [not_or, Nat.not_lt, Bool.not_eq_true] at hready
    obtain ⟨hpos, hf⟩ := hready
    cases he : w.rule.expand w.anchor w.period with
    | error e => rw [fill_succ_of_error hpos hf he] at h; cases h
    | ok o =>
      cases o with
      | none =>
        rw [fill_succ_of_none hpos hf he] at h
        cases h
        exact hfin hw
      | some p =>
        cases hp : w.pastEnd p.start with
        | error e =>
          rw [fill_succ_of_pastEnd_error hpos hf he hp] at h
          cases h
        | ok stop =>
          cases stop with
          | true =>
            rw [fill_succ_of_past hpos hf he hp] at h
            cases h
            exact hfin hw
          | false =>
            rw [fill_succ_of_absorb hpos hf he hp] at h
            have habs' := habs hw he
            split at h
            · split at h
              · cases h
                exact hfin habs'
              · exact fill_keeps P hfin habs habs' h
            · cases h
              exact habs'

theorem next?_eq_some_cases {w w' : Walk} {x : ZonedTime} (h : next? w = .ok (some (x, w'))) :
    ∃ v, (v = w ∨ w.fill maxEmptyPeriods = .ok v) ∧ v.pos < v.buffer.size ∧
      next? v = .ok (some (x, w')) := by
  by_cases hlt : w.pos < w.buffer.size
  · exact ⟨w, .inl rfl, hlt, h⟩
  rw [next?_of_le (by omega)] at h
  obtain ⟨v, hv, h⟩ := Except.bind_eq_ok.1 h
  by_cases hvlt : v.pos < v.buffer.size
  · exact ⟨v, .inr hv, hvlt, h⟩
  · rw [next?_of_finished ((fill_ready hv).resolve_left hvlt) (by omega)] at h
    cases h

theorem step_keeps (P : Walk → Prop) {Q : ZonedTime → Walk → Prop}
    (hfill : ∀ {w w' : Walk}, P w → w.fill maxEmptyPeriods = .ok w' → P w')
    (hgive : ∀ {w w' : Walk} {x : ZonedTime}, P w → w.pos < w.buffer.size →
      next? w = .ok (some (x, w')) → Q x w')
    {w w' : Walk} {x : ZonedTime} (hw : P w) (h : next? w = .ok (some (x, w'))) : Q x w' := by
  obtain ⟨v, hv, hlt, h⟩ := next?_eq_some_cases h
  rcases hv with rfl | hv
  · exact hgive hw hlt h
  · exact hgive (hfill hw hv) hlt h

/-! ## A walk whose values all lie past an end -/

/-- A walk with no end and no count every value of which, from now on, lies past `B`: the
values found already, and every resolved candidate of the periods still to expand. -/
structure Beyond (B : ZonedTime) (w : Walk) : Prop where
  upTo_none : w.upTo = none
  remaining_none : w.remaining = none
  pending_gt : ∀ x ∈ w.pending, B.instant < x.instant
  periods_gt : ∀ j, w.period ≤ j → ∀ q, w.rule.expand w.anchor j = .ok (some q) →
    ∀ c ∈ q.candidates, ∀ t, w.zone.resolve c = some t → B.instant < t.instant

theorem Beyond.finish {B : ZonedTime} {w : Walk} (hw : Beyond B w) :
    Beyond B { w with finished := true } :=
  ⟨hw.upTo_none, hw.remaining_none, hw.pending_gt, hw.periods_gt⟩

theorem Beyond.absorb {B : ZonedTime} {w : Walk} {p : Period} (hw : Beyond B w)
    (hp : w.rule.expand w.anchor w.period = .ok (some p)) : Beyond B (w.absorbPeriod p) := by
  obtain ⟨hrule, hzone, hanchor, hupTo, hperiod, hpos⟩ :=
    absorb_frame ({ w with period := p.next, buffer := #[], pos := 0 } : Walk) p.candidates
  obtain ⟨hbuf, -, -, hrem⟩ := absorb_unbounded
    (w := { w with period := p.next, buffer := #[], pos := 0 }) hw.upTo_none hw.remaining_none
    p.candidates
  refine ⟨hupTo.trans hw.upTo_none, hrem, fun x hx => ?_, fun j hj q hq c hc t ht => ?_⟩
  · simp only [Walk.absorbPeriod, Walk.pending, hpos, List.drop_zero, hbuf] at hx
    -- a value found in this period is a resolved candidate of the period itself
    obtain ⟨c, hc, -, ht⟩ := mem_keep (by simpa using hx)
    exact hw.periods_gt _ le_rfl p hp c hc x ht
  · rw [Walk.absorbPeriod, hrule, hanchor] at hq
    rw [Walk.absorbPeriod, hzone] at ht
    rw [Walk.absorbPeriod, hperiod] at hj
    have hlt := Rule.lt_expand_next hp
    exact hw.periods_gt j (by dsimp only at hj; omega) q hq c hc t ht

theorem Beyond.fill {B : ZonedTime} {w w' : Walk} {fuel : Nat} (hw : Beyond B w)
    (h : w.fill fuel = .ok w') : Beyond B w' :=
  fill_keeps (Beyond B) Beyond.finish (fun hw hp => hw.absorb hp) hw h

theorem Beyond.step_of_lt {B : ZonedTime} {w w' : Walk} {x : ZonedTime} (hw : Beyond B w)
    (hlt : w.pos < w.buffer.size) (h : next? w = .ok (some (x, w'))) :
    B.instant < x.instant ∧ Beyond B w' := by
  rw [next?_of_lt hlt] at h
  cases h
  have hp := pending_of_lt hlt
  refine ⟨hw.pending_gt _ (by rw [hp]; exact List.mem_cons_self), ⟨hw.upTo_none,
    hw.remaining_none, fun y hy => hw.pending_gt y ?_, hw.periods_gt⟩⟩
  rw [hp]
  exact List.mem_cons_of_mem _ hy

theorem Beyond.step {B : ZonedTime} {w w' : Walk} {x : ZonedTime} (hw : Beyond B w)
    (h : next? w = .ok (some (x, w'))) : B.instant < x.instant ∧ Beyond B w' :=
  step_keeps (Beyond B) (fun hw hv => hw.fill hv) (fun hw hlt h => hw.step_of_lt hlt h) hw h

theorem Beyond.given_gt {B : ZonedTime} {w : Walk} (hw : Beyond B w) (n : Nat) :
    ∀ x ∈ Source.given w n, B.instant < x.instant :=
  Source.forall_given (Beyond B) (fun x => B.instant < x.instant)
    (fun _ _ _ hw h => hw.step h) n w hw

/-! ## Stopping before a period -/

theorem pastEnd_eq_true {w : Walk} {s : WallTime} (h : w.pastEnd s = .ok true) :
    ∃ b limit, w.upTo = some b ∧ b.wall.date.addDays? 1 = some limit ∧ limit < s.date := by
  unfold pastEnd at h
  split at h
  · cases h
  · rename_i b hb
    split at h
    · cases h
    · split at h
      · rename_i limit hlimit
        exact ⟨b, limit, hb, hlimit, of_decide_eq_true (Except.ok.inj h)⟩
      · cases h

theorem pastEnd_ok {w : Walk} (h : ∀ b ∈ w.upTo, b.wall.inRange) (s : WallTime) :
    ∃ stop, w.pastEnd s = .ok stop := by
  unfold pastEnd
  split
  · exact ⟨false, rfl⟩
  · rename_i b hb
    rw [if_neg (by simp [h b hb])]
    split
    · exact ⟨_, rfl⟩
    · exact ⟨false, rfl⟩

theorem beyond_of_pastEnd {z : TimeZone} (hz : z.Regular) {b : ZonedTime} (hb : z.Shows b)
    {w : Walk} (hzone : w.zone = z) (hu : w.upTo = none) (hr : w.remaining = none)
    (hpend : w.pending = []) {p : Period} (hp : w.rule.expand w.anchor w.period = .ok (some p))
    {limit : Date} (hlimit : b.wall.date.addDays? 1 = some limit) (hs : limit < p.start.date) :
    Beyond b w := by
  refine ⟨hu, hr, by simp [hpend], fun j hj q hq c hc t ht => ?_⟩
  have hstart := Rule.expand_start_mono hp hq hj
  have hcand := Rule.expand_candidate_ge hq c hc
  have hday := Date.toDays_addDays? hlimit
  rw [Date.lt_def] at hs
  rw [Date.le_def] at hstart hcand
  refine hz.lt_resolve hb ?_ (hzone ▸ ht)
  -- the candidate falls at least two days after the date of the end
  have hcday : b.wall.date.toDays + 2 ≤ c.date.toDays := by omega
  rw [WallTime.toDays_date, WallTime.toDays_date] at hcday
  simp only [nanosPerDay, secondsPerDay, nanosPerSecond] at hcday ⊢
  omega

/-! ## The bounded walk follows the unbounded one -/

/-- The walk `w` under the rule `r`, with the end `B` and `k` values still allowed. -/
abbrev bounded (w : Walk) (r : Rule) (B : Option ZonedTime) (k : Option Nat) : Walk :=
  { w with rule := r, upTo := B, remaining := k }

/-- An unbounded walk in `z` that `w.bounded r B k` follows step for step: the same periods and
values, every value found within the end, and the count not used up. -/
structure Sync (z : TimeZone) (r : Rule) (B : Option ZonedTime) (k : Option Nat) (w : Walk) :
    Prop where
  zone : w.zone = z
  expand : r.expand = w.rule.expand
  upTo_none : w.upTo = none
  remaining_none : w.remaining = none
  count_ne : k ≠ some 0
  pending_within : ∀ x ∈ w.pending, Within B x = true
  last_within : ∀ l ∈ w.last, ∀ b ∈ B, l ≤ b.instant

section Sync

variable {z : TimeZone} {r : Rule} {B : Option ZonedTime} {k : Option Nat} {w : Walk}

theorem Sync.finish (hS : Sync z r B k w) : Sync z r B k { w with finished := true } :=
  ⟨hS.zone, hS.expand, hS.upTo_none, hS.remaining_none, hS.count_ne, hS.pending_within,
    hS.last_within⟩

theorem Sync.give (hS : Sync z r B k w) (hlt : w.pos < w.buffer.size) :
    Sync z r B k { w with pos := w.pos + 1 } := by
  refine ⟨hS.zone, hS.expand, hS.upTo_none, hS.remaining_none, hS.count_ne, fun x hx => ?_,
    hS.last_within⟩
  apply hS.pending_within
  rw [pending_of_lt hlt]
  exact List.mem_cons_of_mem _ hx

theorem Sync.expand_eq (hS : Sync z r B k w) :
    (w.bounded r B k).rule.expand (w.bounded r B k).anchor (w.bounded r B k).period =
      w.rule.expand w.anchor w.period := by
  show r.expand w.anchor w.period = _
  rw [hS.expand]

theorem pending_absorbPeriod (hu : w.upTo = none) (hr : w.remaining = none) (p : Period) :
    (w.absorbPeriod p).pending = keep w.zone w.anchor w.last p.candidates := by
  obtain ⟨hbuf, -⟩ := absorb_unbounded
    (w := { w with period := p.next, buffer := #[], pos := 0 }) hu hr p.candidates
  have hpos := (absorb_frame ({ w with period := p.next, buffer := #[], pos := 0 } : Walk)
    p.candidates).2.2.2.2.2
  simp only [pending, absorbPeriod, hpos, hbuf]
  simp

theorem Sync.absorb_closed (hS : Sync z r B k w) (hf : w.finished = false) (p : Period)
    (hc : Closed B k (keep w.zone w.anchor w.last p.candidates)) :
    ((w.bounded r B k).absorbPeriod p).finished = true ∧
      ((w.bounded r B k).absorbPeriod p).pending =
        cutAt B k (keep w.zone w.anchor w.last p.candidates) := by
  obtain ⟨hbuf, hfin, -⟩ := absorb_bounded
    (w := { w.bounded r B k with period := p.next, buffer := #[], pos := 0 }) hS.count_ne hf
    hS.last_within p.candidates
  have hpos := (absorb_frame ({ w.bounded r B k with period := p.next, buffer := #[], pos := 0 } :
    Walk) p.candidates).2.2.2.2.2
  refine ⟨hfin.2 hc, ?_⟩
  simp only [pending, absorbPeriod, hpos, hbuf]
  simp

theorem Sync.absorb_open (hS : Sync z r B k w) (hf : w.finished = false) (p : Period)
    (hc : ¬ Closed B k (keep w.zone w.anchor w.last p.candidates)) :
    (w.bounded r B k).absorbPeriod p = (w.absorbPeriod p).bounded r B
        (k.map (· - (keep w.zone w.anchor w.last p.candidates).length)) ∧
      Sync z r B (k.map (· - (keep w.zone w.anchor w.last p.candidates).length))
        (w.absorbPeriod p) := by
  obtain ⟨hbuf, hfin, hrest⟩ := absorb_bounded
    (w := { w.bounded r B k with period := p.next, buffer := #[], pos := 0 }) hS.count_ne hf
    hS.last_within p.candidates
  obtain ⟨hbuf', hlast', hfin', hrem'⟩ := absorb_unbounded
    (w := { w with period := p.next, buffer := #[], pos := 0 }) hS.upTo_none hS.remaining_none
    p.candidates
  obtain ⟨hrule, hzone, hanchor, hupTo, hperiod, hpos⟩ :=
    absorb_frame ({ w.bounded r B k with period := p.next, buffer := #[], pos := 0 } : Walk)
      p.candidates
  obtain ⟨hrule', hzone', hanchor', hupTo', hperiod', hpos'⟩ :=
    absorb_frame ({ w with period := p.next, buffer := #[], pos := 0 } : Walk) p.candidates
  obtain ⟨hwithin, hcut, hk⟩ := cutAt_of_not_closed hc
  have hnf : ((w.bounded r B k).absorbPeriod p).finished = false := by
    cases h : ((w.bounded r B k).absorbPeriod p).finished
    · rfl
    · exact absurd (hfin.1 h) hc
  obtain ⟨hlast, hrem⟩ := hrest hnf
  have hpend := pending_absorbPeriod hS.upTo_none hS.remaining_none p
  refine ⟨Walk.ext hrule (hzone.trans hzone'.symm) (hanchor.trans hanchor'.symm) hupTo hrem
    (hperiod.trans hperiod'.symm) ?_ (hpos.trans hpos'.symm) (hlast.trans hlast'.symm)
    (hnf.trans (hfin'.trans hf).symm), ?_⟩
  · apply Array.toList_inj.1
    refine hbuf.trans (Eq.trans ?_ hbuf'.symm)
    simpa using hcut
  · refine ⟨hzone'.trans hS.zone, hrule' ▸ hS.expand, hupTo'.trans hS.upTo_none, hrem', hk,
      fun x hx => hwithin x (hpend ▸ hx), fun l hl b hb => ?_⟩
    -- the last instant kept is one of this period's values, or the last one before it
    rw [Walk.absorbPeriod, hlast'] at hl
    rcases keepLast_mem hl with ⟨t, ht, rfl⟩ | hl
    · exact Within.le (hwithin t ht) hb
    · exact hS.last_within l hl b hb

/-- How a fill of the bounded walk stands to the fill of the unbounded walk it follows, when
neither has a value left to give; `k` is the count then allowed. -/
inductive FillStep (z : TimeZone) (r : Rule) (B : Option ZonedTime) (k : Option Nat) :
    Except CalendarError Walk → Except CalendarError Walk → Prop
  /-- Both fail with the same error. -/
  | error (e : CalendarError) : FillStep z r B k (.error e) (.error e)
  /-- The two walks still follow each other. -/
  | sync {w : Walk} {k' : Option Nat} : Sync z r B k' w → k'.map (· + w.pending.length) = k →
      FillStep z r B k (.ok (w.bounded r B k')) (.ok w)
  /-- The bounded walk has ended inside the period both have just expanded. -/
  | closed {wb w : Walk} : wb.finished = true → wb.pending = cutAt B k w.pending →
      Closed B k w.pending → FillStep z r B k (.ok wb) (.ok w)
  /-- The bounded walk has ended before a period that starts more than a day past its end. -/
  | beyond {wb : Walk} {b : ZonedTime} {u : Except CalendarError Walk} : B = some b →
      wb.finished = true → wb.pending = [] → (∀ w, u = .ok w → Beyond b w) →
      FillStep z r B k (.ok wb) u

theorem count_add_sub {k : Option Nat} {n : Nat} (h : k.map (· - n) ≠ some 0) :
    (k.map (· - n)).map (· + n) = k := by
  cases k with
  | none => rfl
  | some k =>
    simp only [Option.map_some, ne_eq, Option.some.injEq] at h ⊢
    omega

theorem count_add_one_sub_one (k : Option Nat) (n : Nat) :
    (k.map (· + (n + 1))).map (· - 1) = k.map (· + n) := by
  cases k <;> simp

theorem fill_step (hz : z.Regular) (hB : ∀ b ∈ B, z.Shows b ∧ b.wall.inRange) :
    ∀ (fuel : Nat) {w : Walk} {k : Option Nat}, Sync z r B k w → w.buffer.size ≤ w.pos →
      FillStep z r B k ((w.bounded r B k).fill fuel) (w.fill fuel)
  | 0, w, k, hS, hpos => by
    have hk : k.map (· + w.pending.length) = k := by simp [pending_eq_nil hpos]
    exact .sync hS.finish hk
  | fuel + 1, w, k, hS, hpos => by
    have hk : k.map (· + w.pending.length) = k := by simp [pending_eq_nil hpos]
    by_cases hready : w.pos < w.buffer.size ∨ w.finished = true
    · rw [fill_succ_of_ready hready, fill_succ_of_ready (w := w.bounded r B k) hready]
      exact .sync hS hk
    simp only [not_or, Nat.not_lt, Bool.not_eq_true] at hready
    obtain ⟨-, hf⟩ := hready
    cases he : w.rule.expand w.anchor w.period with
    | error e =>
      rw [fill_succ_of_error hpos hf he,
        fill_succ_of_error (w := w.bounded r B k) hpos hf (hS.expand_eq.trans he)]
      exact .error e
    | ok o =>
      cases o with
      | none =>
        rw [fill_succ_of_none hpos hf he,
          fill_succ_of_none (w := w.bounded r B k) hpos hf (hS.expand_eq.trans he)]
        exact .sync hS.finish hk
      | some p =>
        have hpast : w.pastEnd p.start = .ok false := by simp [pastEnd, hS.upTo_none]
        obtain ⟨stop, hstop⟩ := pastEnd_ok (w := w.bounded r B k) (fun b hb => (hB b hb).2) p.start
        cases stop with
        | true =>
          -- the period starts more than a day past the end: nothing from here on is within it
          obtain ⟨b, limit, hb, hlimit, hs⟩ := pastEnd_eq_true hstop
          rw [fill_succ_of_past (w := w.bounded r B k) hpos hf (hS.expand_eq.trans he) hstop]
          have hbeyond := beyond_of_pastEnd hz (hB b hb).1 hS.zone hS.upTo_none hS.remaining_none
            (pending_eq_nil hpos) he hlimit hs
          exact .beyond hb rfl (pending_eq_nil hpos) fun w' hw' => hbeyond.fill hw'
        | false =>
          rw [fill_succ_of_absorb hpos hf he hpast,
            fill_succ_of_absorb (w := w.bounded r B k) hpos hf (hS.expand_eq.trans he) hstop]
          have hpend := pending_absorbPeriod hS.upTo_none hS.remaining_none p
          by_cases hc : Closed B k (keep w.zone w.anchor w.last p.candidates)
          · -- the period decides the cut; the unbounded walk has found values in it
            obtain ⟨hfin, hpb⟩ := hS.absorb_closed hf p hc
            have hcut : ((w.bounded r B k).absorbPeriod p).pending =
                cutAt B k (w.absorbPeriod p).pending := by
              rw [hpb, hpend]
            have hc' : Closed B k (w.absorbPeriod p).pending := hpend ▸ hc
            have hsize : ¬ (w.absorbPeriod p).buffer.size = 0 := fun h0 =>
              not_closed_nil hS.count_ne (pending_eq_nil (w := w.absorbPeriod p) (by omega) ▸ hc')
            rw [if_neg hsize]
            by_cases hb0 : ((w.bounded r B k).absorbPeriod p).buffer.size = 0
            · rw [if_pos hb0]
              by_cases hfuel : fuel = 0
              · rw [if_pos hfuel]
                exact .closed rfl hcut hc'
              · obtain ⟨f, rfl⟩ : ∃ f, fuel = f + 1 := ⟨fuel - 1, by omega⟩
                rw [if_neg hfuel, fill_succ_of_ready (.inr hfin)]
                exact .closed hfin hcut hc'
            · rw [if_neg hb0]
              exact .closed hfin hcut hc'
          · -- the period keeps both walks together, with the count reduced by what it kept
            obtain ⟨heq, hS'⟩ := hS.absorb_open hf p hc
            have hk' : (k.map (· - (keep w.zone w.anchor w.last p.candidates).length)).map
                (· + (w.absorbPeriod p).pending.length) = k := by
              rw [hpend]
              exact count_add_sub (cutAt_of_not_closed hc).2.2
            rw [heq]
            by_cases h0 : (w.absorbPeriod p).buffer.size = 0
            · rw [if_pos h0, if_pos h0]
              by_cases hfuel : fuel = 0
              · rw [if_pos hfuel, if_pos hfuel]
                exact .sync hS'.finish hk'
              · -- nothing was kept, so the count is as it was and the fill goes on
                rw [if_neg hfuel, if_neg hfuel]
                have hnil : (keep w.zone w.anchor w.last p.candidates) = [] :=
                  hpend ▸ pending_eq_nil (by omega)
                have hk0 : k.map (· - (keep w.zone w.anchor w.last p.candidates).length) = k := by
                  rw [hnil]
                  simp
                have hnext := fill_step hz hB fuel hS' (by omega)
                rw [hk0] at hnext hS' ⊢
                exact hnext
            · rw [if_neg h0, if_neg h0]
              exact .sync hS' hk'

/-! ## A bound truncates the walk -/

theorem take_sync (hz : z.Regular) (hB : ∀ b ∈ B, z.Shows b ∧ b.wall.inRange) :
    ∀ (n : Nat) {w : Walk} {k : Option Nat}, Sync z r B k w →
      Source.take (w.bounded r B k) n =
          .ok (cutAt B (k.map (· + w.pending.length)) (Source.given w n)) ∨
        ∃ e, Source.take (w.bounded r B k) n = .error e ∧ Source.take w n = .error e
  | 0, w, k, hS => .inl (by simp [Source.take_zero, cutAt, takeCount])
  | n + 1, w, k, hS => by
    -- a walk with a value to give gives it to both; one that has ended gives nothing more
    have ready : ∀ {w : Walk} {k : Option Nat}, Sync z r B k w →
        (w.pos < w.buffer.size ∨ w.finished = true) →
        Source.take (w.bounded r B k) (n + 1) =
            .ok (cutAt B (k.map (· + w.pending.length)) (Source.given w (n + 1))) ∨
          ∃ e, Source.take (w.bounded r B k) (n + 1) = .error e ∧
            Source.take w (n + 1) = .error e := by
      intro w k hS hw
      by_cases hlt : w.pos < w.buffer.size
      · have hnext : next? (w.bounded r B k) =
            .ok (some (w.buffer[w.pos], ({ w with pos := w.pos + 1 } : Walk).bounded r B k)) :=
          next?_of_lt (w := w.bounded r B k) hlt
        have hx : Within B w.buffer[w.pos] = true :=
          hS.pending_within _ (by rw [pending_of_lt hlt]; exact List.mem_cons_self)
        rw [Source.take_succ_of_some (s := w.bounded r B k) hnext,
          Source.take_succ_of_some (s := w) (next?_of_lt hlt),
          Source.given_succ_of_some (s := w) (next?_of_lt hlt), pending_of_lt hlt]
        rcases take_sync hz hB n (hS.give hlt) with h | ⟨e, hb, hu⟩
        · left
          rw [h, cutAt_cons_of_within hx (by cases k <;> simp), List.length_cons,
            count_add_one_sub_one]
          rfl
        · exact .inr ⟨e, by rw [hb]; rfl, by rw [hu]; rfl⟩
      · have hfin := hw.resolve_left hlt
        have hpos : w.buffer.size ≤ w.pos := by omega
        rw [take_of_finished (w := w.bounded r B k) hfin,
          Source.given_succ_of_none (s := w) (next?_of_finished hfin hpos),
          pending_eq_nil (w := w.bounded r B k) hpos]
        exact .inl (by simp [cutAt, takeCount])
    by_cases hw : w.pos < w.buffer.size ∨ w.finished = true
    · exact ready hS hw
    simp only [not_or, Nat.not_lt, Bool.not_eq_true] at hw
    obtain ⟨hpos, -⟩ := hw
    have hk : k.map (· + w.pending.length) = k := by simp [pending_eq_nil hpos]
    rw [hk]
    have hstep := fill_step hz hB maxEmptyPeriods hS hpos
    generalize hb : (w.bounded r B k).fill maxEmptyPeriods = ob at hstep
    generalize hu : w.fill maxEmptyPeriods = ou at hstep
    cases hstep with
    | error e =>
      exact .inr ⟨e, take_of_fill_error (w := w.bounded r B k) hpos hb n,
        take_of_fill_error hpos hu n⟩
    | sync hS' hk' =>
      rw [take_of_fill (w := w.bounded r B k) hpos hb, given_of_fill hpos hu,
        take_of_fill hpos hu, ← hk']
      exact ready hS' (fill_ready hu)
    | closed hfin hpend hc =>
      rename_i w'
      -- the bounded walk gives the cut of what the unbounded one found in the last period
      left
      rw [take_of_fill (w := w.bounded r B k) hpos hb, given_of_fill hpos hu,
        take_of_finished hfin, hpend]
      congr 1
      rcases given_pending w' (n + 1) with h | ⟨rest, h⟩
      · rw [h, cutAt_take]
      · rw [h, hc.cutAt_append]
        have hlen := Source.length_given_le w' (n + 1)
        rw [h, List.length_append] at hlen
        exact List.take_of_length_le (by have := length_cutAt_le B k w'.pending; omega)
    | beyond hBb hfin hpend hbeyond =>
      -- the bounded walk has ended, and the unbounded one gives nothing within the end
      left
      rw [take_of_fill (w := w.bounded r B k) hpos hb, take_of_finished hfin, hpend, hBb]
      cases ou with
      | error e =>
        rw [Source.given_succ_of_error (s := w) (e := e)
          (by show next? w = _; rw [next?_of_le hpos, hu]; rfl)]
        simp [cutAt, takeCount]
      | ok w' =>
        rw [given_of_fill hpos hu, cutAt_of_gt ((hbeyond w' rfl).given_gt (n + 1))]
        rfl

end Sync

/-! ## The walk of a rule with its bound and a horizon -/

theorem within_withHorizon (w : Walk) (H : Option ZonedTime) (t : ZonedTime) :
    Within (w.withHorizon H).upTo t = (Within w.upTo t && Within H t) := by
  cases H with
  | none => simp [withHorizon, Within]
  | some h =>
    cases hu : w.upTo with
    | none => simp [withHorizon, hu, Within]
    | some u =>
      simp only [withHorizon, hu, Within, Option.all_some]
      -- the earlier of the two ends is the one that decides
      split
      all_goals
        rename_i hlt
        rw [Instant.lt_def] at hlt
        rw [Bool.eq_iff_iff]
        simp only [Bool.and_eq_true, decide_eq_true_eq, Instant.le_def]
        omega

theorem mem_withHorizon_upTo {w : Walk} {H : Option ZonedTime} {b : ZonedTime}
    (hb : b ∈ (w.withHorizon H).upTo) : b ∈ w.upTo ∨ b ∈ H := by
  cases H with
  | none => exact .inl hb
  | some h =>
    cases hu : w.upTo with
    | none =>
      simp only [withHorizon, hu, Option.mem_def, Option.some.injEq] at hb
      exact .inr (by rw [hb]; rfl)
    | some u =>
      simp only [withHorizon, hu, Option.mem_def, Option.some.injEq] at hb
      split at hb
      · exact .inr (by rw [hb]; rfl)
      · exact .inl (by rw [hb]; rfl)

theorem start_withHorizon_eq {r : Rule} {z : TimeZone} {a : ZonedTime} (H : Option ZonedTime)
    (hk : r.count? ≠ some 0) :
    (Walk.start r z a).withHorizon H = (Walk.start { r with bound := .unbounded } z a).bounded r
      ((Walk.start r z a).withHorizon H).upTo r.count? := by
  cases H <;>
    exact Walk.ext rfl rfl rfl rfl rfl rfl rfl rfl rfl
      (show decide (r.count? = some 0) = decide ((none : Option Nat) = some 0) by simp [hk])

theorem shows_withHorizon_upTo {r : Rule} {z : TimeZone} (hz : z.Regular) (a : ZonedTime)
    {H : Option Instant} (hH : ∀ h ∈ H, (z.zonedAt h).wall.inRange)
    (hU : ∀ u ∈ r.upTo?.bind (·.resolveUpper z), u.wall.inRange) :
    ∀ b ∈ ((Walk.start r z a).withHorizon (H.map z.zonedAt)).upTo, z.Shows b ∧ b.wall.inRange := by
  intro b hb
  rcases mem_withHorizon_upTo hb with hb | hb
  · exact ⟨hz.shows_resolveUpper (Option.mem_bind_iff.1 hb).choose_spec.2, hU b hb⟩
  · obtain ⟨h, hh, rfl⟩ := Option.mem_map.1 hb
    exact ⟨TimeZone.shows_zonedAt z h, hH h hh⟩

theorem sync_start {r : Rule} {z : TimeZone} {a : ZonedTime} (H : Option ZonedTime)
    (hk : r.count? ≠ some 0) :
    Sync z r ((Walk.start r z a).withHorizon H).upTo r.count?
      (Walk.start { r with bound := .unbounded } z a) :=
  ⟨rfl, (Rule.expand_withBound r .unbounded).symm, rfl, rfl, hk, by simp [pending, Walk.start],
    by simp [Walk.start]⟩

/-- A bound truncates the walk: in a regular zone the walk gives the unbounded walk's values no
later than the `UNTIL` and the horizon, then the first `COUNT`, or both fail alike. -/
theorem take_bounded {r : Rule} {z : TimeZone} (hz : z.Regular) (a : ZonedTime)
    (H : Option Instant) (hH : ∀ h ∈ H, (z.zonedAt h).wall.inRange)
    (hU : ∀ u ∈ r.upTo?.bind (·.resolveUpper z), u.wall.inRange) (n : Nat) :
    Source.take ((Walk.start r z a).withHorizon (H.map z.zonedAt)) n =
        .ok (takeCount r.count?
          ((Source.given (Walk.start { r with bound := .unbounded } z a) n).takeWhile fun t =>
            (r.upTo?.bind (·.resolveUpper z)).all (fun u => decide (t.instant ≤ u.instant)) &&
              H.all fun h => decide (t.instant ≤ h))) ∨
      ∃ e, Source.take ((Walk.start r z a).withHorizon (H.map z.zonedAt)) n = .error e ∧
        Source.take (Walk.start { r with bound := .unbounded } z a) n = .error e := by
  have hwithin : (fun t : ZonedTime =>
      (r.upTo?.bind (·.resolveUpper z)).all (fun u => decide (t.instant ≤ u.instant)) &&
        H.all fun h => decide (t.instant ≤ h)) =
      Within ((Walk.start r z a).withHorizon (H.map z.zonedAt)).upTo := by
    funext t
    rw [within_withHorizon]
    cases H <;> rfl
  rw [hwithin]
  by_cases hk : r.count? = some 0
  · -- a count of zero gives nothing at all
    have hfin : ((Walk.start r z a).withHorizon (H.map z.zonedAt)).finished = true := by
      cases H <;> simp [withHorizon, Walk.start, hk]
    have hpend : ((Walk.start r z a).withHorizon (H.map z.zonedAt)).pending = [] := by
      cases H <;> rfl
    left
    rw [take_of_finished hfin, hk, hpend]
    simp [takeCount]
  · have hB := shows_withHorizon_upTo hz a hH hU
    have hS := sync_start (z := z) (a := a) (H.map z.zonedAt) hk
    rw [start_withHorizon_eq _ hk]
    have hcount : r.count?.map (· + (Walk.start { r with bound := .unbounded } z a).pending.length)
        = r.count? := by
      simp [pending, Walk.start]
    have := take_sync hz hB n hS
    rw [hcount] at this
    exact this

/-- Daily walks under a count of three in UTC, and at 02:30 in New York from 8 March 2024 across
the change to daylight time, with `UNTIL` 02:30 on 12 March and a horizon at 12:00 UTC on 11 March. -/
theorem take_bounded_daily :
    let utc : TimeZone := ⟨"UTC", ⟨⟨0, 0, "UTC"⟩, #[]⟩⟩
    let r : Rule := { Rule.every .daily with bound := .upTo (.wall ⟨1710210600000000000⟩) }
    let a : ZonedTime := ⟨⟨1709883000000000000⟩, -18000⟩
    let H : Option Instant := some ⟨1710158400000000000⟩
    TimeZone.Regular utc ∧
      (Source.take ((Walk.start { Rule.every .daily with bound := .count 3 } utc ⟨⟨0⟩, 0⟩).withHorizon
          none) 5 =
          .ok (takeCount (some 3) ((Source.given (Walk.start (Rule.every .daily) utc ⟨⟨0⟩, 0⟩) 5).takeWhile
            fun _ => true)) ∨
        ∃ e, Source.take ((Walk.start { Rule.every .daily with bound := .count 3 } utc ⟨⟨0⟩, 0⟩).withHorizon
            none) 5 = .error e ∧
          Source.take (Walk.start (Rule.every .daily) utc ⟨⟨0⟩, 0⟩) 5 = .error e) ∧
      (Source.take ((Walk.start r TimeZone.newYork a).withHorizon (H.map TimeZone.newYork.zonedAt)) 5 =
          .ok (takeCount r.count? ((Source.given
            (Walk.start { r with bound := .unbounded } TimeZone.newYork a) 5).takeWhile fun t =>
              (r.upTo?.bind (·.resolveUpper TimeZone.newYork)).all
                (fun u => decide (t.instant ≤ u.instant)) &&
                H.all fun h => decide (t.instant ≤ h))) ∨
        ∃ e, Source.take ((Walk.start r TimeZone.newYork a).withHorizon
            (H.map TimeZone.newYork.zonedAt)) 5 = .error e ∧
          Source.take (Walk.start { r with bound := .unbounded } TimeZone.newYork a) 5 = .error e) := by
  intro utc r a H
  have hz : utc.Regular := TimeZone.regular_of_fixed rfl (by decide) (by decide)
  have hH : ∀ h ∈ H, (TimeZone.newYork.zonedAt h).wall.inRange := by decide +kernel
  have hU : ∀ u ∈ r.upTo?.bind (·.resolveUpper TimeZone.newYork), u.wall.inRange := by
    decide +kernel
  exact ⟨hz, take_bounded hz ⟨⟨0⟩, 0⟩ none (by simp) (by simp [Rule.upTo?]) 5,
    take_bounded TimeZone.newYork_regular a H hH hU 5⟩

end Walk

end Cadence
