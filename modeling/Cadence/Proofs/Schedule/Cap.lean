import Cadence.Proofs.Schedule.Window

/-!
# The shapes of a query and its cap

A query of a schedule takes one of three shapes. With a limit it gives the first occurrences of
its window, as many as the limit; with a window end and no limit, all of the window; with
neither, all of the window if the cap holds them, and otherwise it fails naming the cap. Only
a schedule whose rule never ends, asked with neither, fails as unbounded, and it does so before
anything else (`Schedule.query_shapes`).

The capped shape collects one occurrence past the cap to see whether the cap is passed, and
counts it in a machine word that wraps: under the largest cap the word holds it collects
nothing and gives no occurrences at all.
-/

namespace Cadence

/-! ## Failures of a sequence of steps -/

theorem Except.bind_eq_error {ε α β : Type} {x : Except ε α} {f : α → Except ε β} {e : ε} :
    (x >>= f) = .error e ↔ x = .error e ∨ ∃ a, x = .ok a ∧ f a = .error e := by
  cases x <;> simp [bind, Except.bind]

theorem mapM_eq_error {ε α β : Type} {f : α → Except ε β} {e : ε} :
    ∀ {l : List α}, l.mapM f = .error e → ∃ a ∈ l, f a = .error e
  | [], h => by cases h
  | a :: l, h => by
    rw [List.mapM_cons] at h
    rcases Except.bind_eq_error.1 h with ha | ⟨b, -, h⟩
    · exact ⟨a, List.mem_cons_self, ha⟩
    rcases Except.bind_eq_error.1 h with hl | ⟨bs, -, h⟩
    · obtain ⟨c, hc, hfc⟩ := mapM_eq_error hl
      exact ⟨c, List.mem_cons_of_mem a hc, hfc⟩
    · cases h

namespace Schedule

variable {s : Schedule}

theorem occurrenceAt_eq_error {t : Instant} {e : ScheduleError}
    (h : s.occurrenceAt t = .error e) : e = .overflow := by
  unfold occurrenceAt at h
  split at h
  · cases h
  · cases h
    rfl

/-! ## Why a query fails -/

theorem collected_eq_error {lo hi : Option Instant} {n : Nat} {e : ScheduleError}
    (h : s.collected lo hi n = .error e) : e = .overflow := by
  unfold collected at h
  split at h
  · cases h
  · cases h
    rfl

theorem occurrences_eq_error {lo hi : Option Instant} {limit : Option Nat} {e : ScheduleError}
    (h : s.occurrences lo hi limit = .error e) :
    (e = .unbounded ∧ s.isInfinite = true ∧ hi = none ∧ limit = none) ∨ e = .overflow ∨
      e = .capExceeded s.maxOccurrences := by
  unfold occurrences at h
  dsimp only at h
  split at h
  · rename_i hc
    simp only [Bool.and_eq_true, Option.isNone_iff_eq_none] at hc
    obtain ⟨⟨hinf, hhi⟩, hlim⟩ := hc
    cases h
    exact .inl ⟨rfl, hinf, hhi, hlim⟩
  right
  -- past the first check, each step fails only on an overflow, and the last on the cap
  rcases Except.bind_eq_error.1 h with hts | ⟨ts, -, h⟩
  · exact .inl (collected_eq_error hts)
  rcases Except.bind_eq_error.1 h with hfound | ⟨found, -, h⟩
  · obtain ⟨t, -, ht⟩ := mapM_eq_error hfound
    exact .inl (occurrenceAt_eq_error ht)
  split at h
  · cases h
    exact .inr rfl
  · cases h

theorem occurrences_eq_unbounded_iff (lo hi : Option Instant) (limit : Option Nat) :
    s.occurrences lo hi limit = .error .unbounded ↔
      s.isInfinite = true ∧ hi = none ∧ limit = none := by
  constructor
  · intro h
    rcases occurrences_eq_error h with ⟨-, hc⟩ | h | h
    · exact hc
    · cases h
    · cases h
  · rintro ⟨hinf, rfl, rfl⟩
    simp [occurrences, hinf, throw, throwThe, MonadExceptOf.throw, bind, Except.bind]

/-! ## A query with neither a window end nor a limit -/

theorem occurrences_at_sizeMax (lo : Option Instant) (hinf : s.isInfinite = false)
    (hm : s.maxOccurrences = sizeMax) : s.occurrences lo none none = .ok [] := by
  simp [occurrences, collectCount_sizeMax hm, collected, collectWindow, hinf, bind, Except.bind,
    pure, Except.pure]

variable {zs : List ZonedTime} {os : List Occurrence}

theorem occurrences_capped (h : s.RunsTo none zs) (lo : Option Instant)
    (hos : (windowStarts zs lo none).mapM s.occurrenceAt = .ok os) (hinf : s.isInfinite = false)
    (hm : s.maxOccurrences < sizeMax) :
    s.occurrences lo none none =
      if os.length ≤ s.maxOccurrences then .ok os else .error (.capExceeded s.maxOccurrences) := by
  by_cases hle : os.length ≤ s.maxOccurrences
  · rw [if_pos hle]
    exact (occurrences_eq_ok_iff h lo fun _ => hm).2 ⟨hos, fun _ => ⟨hinf, hle⟩⟩
  rw [if_neg hle]
  -- one occurrence past the cap is made, and it passes the cap
  have htake := mapM_take_eq_ok (s.maxOccurrences + 1) hos
  have hlen : (os.take (s.maxOccurrences + 1)).length = s.maxOccurrences + 1 := by
    rw [List.length_take]
    omega
  simp only [occurrences, collectCount_capped hm, collected,
    collectWindow_ascending h.run h.ascending (Nat.lt_succ_of_le h.fits)]
  simp [hinf, htake, hlen, throw, throwThe, MonadExceptOf.throw, bind, Except.bind]

/-- The shapes of a query: unbounded exactly when the schedule never ends and nothing bounds it;
the first occurrences with a limit; all with a window end; else all, or the cap passed. -/
theorem query_shapes (h : s.RunsTo hi zs) (lo : Option Instant)
    (hos : (windowStarts zs lo hi).mapM s.occurrenceAt = .ok os) :
    (∀ limit, s.occurrences lo hi limit = .error .unbounded ↔
      s.isInfinite = true ∧ hi = none ∧ limit = none) ∧
    (∀ k, s.occurrences lo hi (some k) = .ok (os.take k)) ∧
    (∀ b, hi = some b → s.occurrences lo hi none = .ok os) ∧
    (hi = none → s.isInfinite = false → s.maxOccurrences ≤ sizeMax →
      s.occurrences lo hi none =
        if s.maxOccurrences = sizeMax then .ok []
        else if os.length ≤ s.maxOccurrences then .ok os
        else .error (.capExceeded s.maxOccurrences)) := by
  refine ⟨occurrences_eq_unbounded_iff lo hi, fun k => ?_, fun b hb => ?_, fun hhi hinf hle => ?_⟩
  · rw [occurrences_limit h lo k]
    exact mapM_take_eq_ok k hos
  · exact (occurrences_eq_ok_iff h lo fun hnone => by simp [hb] at hnone).2
      ⟨hos, fun hnone => by simp [hb] at hnone⟩
  · subst hhi
    by_cases hm : s.maxOccurrences = sizeMax
    · rw [if_pos hm]
      exact occurrences_at_sizeMax lo hinf hm
    · rw [if_neg hm]
      exact occurrences_capped h lo hos hinf (by omega)

/-- A daily event with three occurrences under a cap of two, in a zone of offset zero: a query
with neither a window end nor a limit fails naming the cap. -/
theorem query_shapes_daily_cap :
    let s : Schedule := ⟨⟨some { Rule.every .daily with bound := .count 3 }, none, [], []⟩,
      ⟨0⟩, ⟨3600000000000⟩, ⟨"UTC", ⟨⟨0, 0, "UTC"⟩, #[]⟩⟩, 2⟩
    let zs := s.definition.occurring s.zone (s.zone.zonedAt s.start)
      [⟨⟨0⟩, 0⟩, ⟨⟨86400000000000⟩, 0⟩, ⟨⟨172800000000000⟩, 0⟩] []
    let os : List Occurrence := [⟨⟨0⟩, ⟨3600000000000⟩⟩, ⟨⟨86400000000000⟩, ⟨90000000000000⟩⟩,
      ⟨⟨172800000000000⟩, ⟨176400000000000⟩⟩]
    s.RunsTo none zs ∧ (windowStarts zs none none).mapM s.occurrenceAt = .ok os ∧
      (∀ limit, s.occurrences none none limit = .error .unbounded ↔
        s.isInfinite = true ∧ (none : Option Instant) = none ∧ limit = none) ∧
      (∀ k, s.occurrences none none (some k) = .ok (os.take k)) ∧
      (∀ b, (none : Option Instant) = some b → s.occurrences none none none = .ok os) ∧
      ((none : Option Instant) = none → s.isInfinite = false → s.maxOccurrences ≤ sizeMax →
        s.occurrences none none none =
          if s.maxOccurrences = sizeMax then .ok []
          else if os.length ≤ s.maxOccurrences then .ok os
          else .error (.capExceeded s.maxOccurrences)) := by
  intro s zs os
  have h : s.RunsTo none zs :=
    runsTo_occurring (Source.run_of_take (n := 4) (by decide +kernel) (by decide)) (.stop rfl)
      (.inl rfl)
  have hos : (windowStarts zs none none).mapM s.occurrenceAt = .ok os := by decide +kernel
  exact ⟨h, hos, query_shapes h none hos⟩

end Schedule

end Cadence
