import Cadence.Proofs.Stream.Union
/-!
# A walk gives ascending instants of the calendar

A walk keeps a candidate only when its instant is later than every instant kept before, and every
instant a zone finds for a wall time lies in the calendar. So every run of a walk is ascending and
lies in the calendar (`Walk.Ordered.run`), and no run is longer than the number of instants of the
calendar, which is the walk's `remaining` (`Walk.Ordered.length_run_le`).
-/
namespace Cadence

theorem TimeZone.inRange_of_earliest_ofWall {z : TimeZone} {w : WallTime} {t : ZonedTime}
    (h : (z.ofWall w).earliest = some t) : t.instant.inRange := by
  unfold TimeZone.ofWall at h
  generalize z.spans.spansAtWall w.seconds = spans at h
  cases spans with
  | none => cases h
  | single s =>
    simp only [Zone.Resolution.bind?] at h
    split at h
    · rename_i hs
      split at hs
      · rename_i hin
        cases hs
        cases h
        exact hin
      · cases hs
    · cases h
  | ambiguous s s' =>
    simp only [Zone.Resolution.bind?] at h
    split at h
    · rename_i hs _
      split at hs
      · rename_i hin
        cases hs
        cases h
        exact hin
      · cases hs
    · cases h

theorem TimeZone.inRange_of_resolve {z : TimeZone} {w : WallTime} {t : ZonedTime}
    (h : z.resolve w = some t) : t.instant.inRange := by
  obtain ⟨w', hw'⟩ := TimeZone.earliest_of_resolve h
  exact TimeZone.inRange_of_earliest_ofWall hw'

theorem Ascending.length_le {xs : List ZonedTime} (hx : Ascending xs)
    (hr : ∀ t ∈ xs, t.instant.inRange) : xs.length ≤ Walk.instantCount := by
  have hnodup : (xs.map fun t => t.instant.nanos).Nodup :=
    List.pairwise_map.2 (hx.imp fun h => Int.ne_of_lt h)
  have hsub : (xs.map fun t => t.instant.nanos).toFinset ⊆
      Finset.Icc (Date.minDays * nanosPerDay) Instant.last.nanos := by
    intro n hn
    obtain ⟨t, ht, rfl⟩ := List.mem_map.1 (List.mem_toFinset.1 hn)
    have := hr t ht
    simp only [Instant.inRange, nanosInRange, Bool.and_eq_true, decide_eq_true_eq] at this
    simp only [Finset.mem_Icc, Instant.last]
    omega
  have hcard := Finset.card_le_card hsub
  rw [List.toFinset_card_of_nodup hnodup, List.length_map, Int.card_Icc] at hcard
  unfold Walk.instantCount
  omega

namespace Walk

/-! ## What an absorb adds -/

/-- The values found lie in the calendar, ascend, lie above `x` and no later than the last
instant kept, which is no earlier than `x`. -/
structure Found (x : Option Instant) (w : Walk) : Prop where
  ascending : Ascending w.buffer.toList
  inRange : ∀ t ∈ w.buffer.toList, t.instant.inRange
  gt : ∀ t ∈ w.buffer.toList, ∀ i ∈ x, i < t.instant
  le_last : ∀ t ∈ w.buffer.toList, ∃ l ∈ w.last, t.instant ≤ l
  last_ge : ∀ i ∈ x, ∃ l ∈ w.last, i ≤ l

theorem Found.absorb {x : Option Instant} {w : Walk} {cs : List WallTime} (hw : Found x w) :
    Found x (w.absorb cs) := by
  refine absorb_keeps (Found x) cs
    (fun hv => ⟨hv.ascending, hv.inRange, hv.gt, hv.le_last, hv.last_ge⟩) ?_ hw
  intro v c t hv _ _ hres hgt r f
  -- the instant is later than the last one kept, so it extends the ascending values
  refine ⟨?_, ?_, ?_, ?_, ?_⟩
  · simp only [Array.toList_push]
    refine List.pairwise_append.2 ⟨hv.ascending, List.pairwise_singleton _ _, ?_⟩
    intro a ha b hb
    rw [List.mem_singleton.1 hb]
    obtain ⟨l, hl, hal⟩ := hv.le_last a ha
    exact Int.lt_of_le_of_lt hal (hgt l hl)
  · intro u hu
    rw [Array.toList_push, List.mem_append, List.mem_singleton] at hu
    rcases hu with hu | rfl
    · exact hv.inRange u hu
    · exact TimeZone.inRange_of_resolve hres
  · intro u hu i hi
    rw [Array.toList_push, List.mem_append, List.mem_singleton] at hu
    rcases hu with hu | rfl
    · exact hv.gt u hu i hi
    · obtain ⟨l, hl, hil⟩ := hv.last_ge i hi
      exact Int.lt_of_le_of_lt hil (hgt l hl)
  · intro u hu
    rw [Array.toList_push, List.mem_append, List.mem_singleton] at hu
    rcases hu with hu | rfl
    · obtain ⟨l, hl, hul⟩ := hv.le_last u hu
      exact ⟨t.instant, rfl, Int.le_of_lt (Int.lt_of_le_of_lt hul (hgt l hl))⟩
    · exact ⟨u.instant, rfl, Int.le_refl _⟩
  · intro i hi
    obtain ⟨l, hl, hil⟩ := hv.last_ge i hi
    exact ⟨t.instant, rfl, Int.le_of_lt (Int.lt_of_le_of_lt hil (hgt l hl))⟩

/-! ## What a walk gives -/

/-- The values found and not yet given lie in the calendar, ascend and lie above `x`, no later
than the last kept instant, itself no earlier than `x`. -/
structure Ordered (x : Option Instant) (w : Walk) : Prop where
  ascending : Ascending w.pending
  inRange : ∀ t ∈ w.pending, t.instant.inRange
  gt : ∀ t ∈ w.pending, ∀ i ∈ x, i < t.instant
  le_last : ∀ t ∈ w.pending, ∃ l ∈ w.last, t.instant ≤ l
  last_ge : ∀ i ∈ x, ∃ l ∈ w.last, i ≤ l

section Ordered

variable {x : Option Instant} {w w' : Walk}

theorem ordered_start (r : Rule) (z : TimeZone) (a : ZonedTime) : Ordered none (start r z a) :=
  ⟨by simp [pending, start, Ascending], by simp [pending, start], by simp, by simp [pending, start],
    by simp⟩

theorem Ordered.withHorizon (hw : Ordered x w) (H : Option ZonedTime) :
    Ordered x (w.withHorizon H) := by
  cases H <;> exact ⟨hw.ascending, hw.inRange, hw.gt, hw.le_last, hw.last_ge⟩

theorem Ordered.finish (hw : Ordered x w) : Ordered x { w with finished := true } :=
  ⟨hw.ascending, hw.inRange, hw.gt, hw.le_last, hw.last_ge⟩

theorem Ordered.absorb (hw : Ordered x w) (p : Period) :
    Ordered x (w.absorbPeriod p) := by
  have hfound : Found x ({ w with period := p.next, buffer := #[], pos := 0 } : Walk) :=
    ⟨by simp [Ascending], by simp, by simp, by simp, hw.last_ge⟩
  have habs : Found x (w.absorbPeriod p) := hfound.absorb
  have hzero := (absorb_frame ({ w with period := p.next, buffer := #[], pos := 0 } : Walk)
    p.candidates).2.2.2.2.2
  -- the walk absorbed into is empty, so what it has found is what it has still to give
  have hpend : (w.absorbPeriod p).pending = (w.absorbPeriod p).buffer.toList := by
    simp only [pending, absorbPeriod, hzero, List.drop_zero]
  exact ⟨hpend ▸ habs.ascending, hpend ▸ habs.inRange, hpend ▸ habs.gt, hpend ▸ habs.le_last,
    habs.last_ge⟩

theorem Ordered.fill {fuel : Nat} (hw : Ordered x w) (h : w.fill fuel = .ok w') : Ordered x w' :=
  fill_keeps (Ordered x) Ordered.finish (fun hw _ => hw.absorb _) hw h

theorem Ordered.step_of_lt {a : ZonedTime} (hw : Ordered x w) (hlt : w.pos < w.buffer.size)
    (h : next? w = .ok (some (a, w'))) :
    (∀ i ∈ x, i < a.instant) ∧ a.instant.inRange ∧ Ordered (some a.instant) w' := by
  rw [next?_of_lt hlt] at h
  cases h
  have hp := pending_of_lt hlt
  have hmem : w.buffer[w.pos] ∈ w.pending := by rw [hp]; exact List.mem_cons_self
  have htail : ∀ t ∈ ({ w with pos := w.pos + 1 } : Walk).pending, t ∈ w.pending := by
    intro t ht
    rw [hp]
    exact List.mem_cons_of_mem _ ht
  have hasc := hw.ascending
  rw [hp] at hasc
  obtain ⟨hhead, htl⟩ := List.pairwise_cons.1 hasc
  refine ⟨hw.gt _ hmem, hw.inRange _ hmem, htl, fun t ht => hw.inRange t (htail t ht), ?_,
    fun t ht => hw.le_last t (htail t ht), ?_⟩
  · intro t ht i hi
    cases hi
    exact hhead t ht
  · intro i hi
    cases hi
    exact hw.le_last _ hmem

theorem Ordered.step {a : ZonedTime} (hw : Ordered x w) (h : next? w = .ok (some (a, w'))) :
    (∀ i ∈ x, i < a.instant) ∧ a.instant.inRange ∧ Ordered (some a.instant) w' :=
  step_keeps (Ordered x) (fun hw hv => hw.fill hv) (fun hw hlt h => hw.step_of_lt hlt h) hw h

/-- Every run of a walk ascends, lies in the calendar and lies above what the walk has given. -/
theorem Ordered.run {xs : List ZonedTime} {r : Option CalendarError} (hw : Ordered x w)
    (h : Source.Run w xs r) :
    Ascending xs ∧ (∀ t ∈ xs, t.instant.inRange) ∧ ∀ t ∈ xs, ∀ i ∈ x, i < t.instant := by
  induction h generalizing x with
  | stop _ => simp [Ascending]
  | fail _ => simp [Ascending]
  | give hs _ ih =>
    obtain ⟨hgt, hin, hw'⟩ := hw.step hs
    obtain ⟨hasc, hrange, habove⟩ := ih hw'
    refine ⟨List.pairwise_cons.2 ⟨fun t ht => habove t ht _ rfl, hasc⟩, ?_, ?_⟩
    · intro t ht
      rcases List.mem_cons.1 ht with rfl | ht
      · exact hin
      · exact hrange t ht
    · intro t ht i hi
      rcases List.mem_cons.1 ht with rfl | ht
      · exact hgt i hi
      · exact Int.lt_trans (hgt i hi) (habove t ht _ rfl)

/-- No run of a walk is longer than the calendar has instants. -/
theorem Ordered.length_run_le {xs : List ZonedTime} {r : Option CalendarError}
    (hw : Ordered x w) (h : Source.Run w xs r) : xs.length ≤ instantCount :=
  (hw.run h).1.length_le (hw.run h).2.1

end Ordered

/-- The instants of the calendar after `x`, or all of them when nothing was given: what a walk
above `x` can still give. -/
def rank : Option Instant → Nat
  | none => instantCount
  | some i => (Instant.last.nanos - i.nanos).toNat

theorem rank_lt {x : Option Instant} {t : Instant} (hx : ∀ i ∈ x, i < t) (ht : t.inRange) :
    rank (some t) < rank x := by
  simp only [Instant.inRange, nanosInRange, Bool.and_eq_true, decide_eq_true_eq] at ht
  cases x with
  | none =>
    simp only [rank, instantCount, Instant.last]
    omega
  | some i =>
    have hi := hx i rfl
    rw [Instant.lt_def] at hi
    simp only [rank, Instant.last]
    omega

theorem stops {x : Option Instant} {w : Walk} (hw : Ordered x w) : Source.Stops w :=
  Source.stops_of_rank (fun w n => ∃ x, Ordered x w ∧ rank x ≤ n)
    (fun ⟨x, hw, hle⟩ hs => by
      obtain ⟨hgt, hin, hw'⟩ := hw.step hs
      exact ⟨rank (some _), Nat.lt_of_lt_of_le (rank_lt hgt hin) hle, _, hw', le_rfl⟩)
    ⟨x, hw, le_rfl⟩

end Walk

end Cadence
