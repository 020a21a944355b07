import Cadence.Proofs.Walk.Guard
import Cadence.Proofs.Walk.Weekly

/-!
# Skipping rejected intraday steps

An hourly, minutely or secondly rule steps its anchor along the wall clock, `interval` units at
a time. Rather than try each step, a step that the rule's day, hour or minute filter rejects
jumps to the first step that can reach the next day, hour or minute: the whole seconds to that
boundary divided by the step, rounded up. Every step jumped over lies at least a second before
the boundary, hence in the rejected day, hour or minute, and is rejected as well
(`Rule.expandIntraday_cases`). So the periods visited from index 0, each at the index the one
before gives, yield the candidates of trying every step in turn
(`Rule.skipping_agrees_with_stepping`), whatever the step and the anchor's fraction of a
second.
-/
namespace Cadence

/-! ## Trying every step in turn -/

namespace Rule

/-- The wall time of step `k` of an intraday rule: the anchor moved `k` times by `interval`
units, if that stays in the calendar. -/
def stepTime? (r : Rule) (n : WallTime) (k : Int) : Option WallTime :=
  n.addSeconds? (k * (r.frequency.unitSeconds * r.interval))

/-- The filters a step of an intraday rule must pass: its day and its hour, and its minute and
its second where the rule steps by minutes or by seconds. -/
def slotPasses (r : Rule) (t : WallTime) : Bool :=
  r.dayMatches t.date && (r.byHour.isEmpty || r.byHour.contains t.hour) &&
    match r.frequency with
    | .hourly => true
    | .minutely => r.byMinute.isEmpty || r.byMinute.contains t.minute
    | _ => (r.byMinute.isEmpty || r.byMinute.contains t.minute) &&
      (r.bySecond.isEmpty || r.bySecond.contains t.second)

/-- The candidates of a step that passes: each minute and second of its hour for an hourly rule,
each second of its minute for a minutely rule, the step itself for a secondly rule. -/
def slotCandidates (r : Rule) (t : WallTime) : List WallTime :=
  match r.frequency with
  | .hourly => (valuesOr r.byMinute t.minute).flatMap fun m =>
      (valuesOr r.bySecond t.second).map fun s =>
        WallTime.ofDays t.date.toDays (t.hour * 3600 + m * 60 + s)
  | .minutely => (valuesOr r.bySecond t.second).map t.withSecond
  | _ => [t]

/-- Step `k` tried on its own: the candidates of its wall time when that passes the filters, none
when it does not, and nothing at all when it leaves the calendar. -/
def plainStep (r : Rule) (n : WallTime) (k : Int) : Option (List WallTime) :=
  (r.stepTime? n k).map fun t => if r.slotPasses t then r.slotCandidates t else []

/-- The candidates of the `len` steps from `k`, each tried in turn. -/
def plainRun (r : Rule) (n : WallTime) (k : Int) : Nat → Option (List WallTime)
  | 0 => some []
  | len + 1 => do
    let cs ← r.plainStep n k
    let rest ← r.plainRun n (k + 1) len
    pure (cs ++ rest)

/-- The periods an intraday walk expands from index `i` on, each at the index the one before
gives as its next, up to index `j`. -/
inductive Visits (r : Rule) (n : WallTime) : Int → List Period → Int → Prop
  | stop (i : Int) : Visits r n i [] i
  | step {i j : Int} {p : Period} {ps : List Period} :
      r.expandIntraday n i = some p → Visits r n p.next ps j → Visits r n i (p :: ps) j

variable {r : Rule} {n : WallTime}

@[simp] theorem plainRun_zero (k : Int) : r.plainRun n k 0 = some [] := rfl

theorem plainRun_succ (k : Int) (len : Nat) :
    r.plainRun n k (len + 1) =
      (r.plainStep n k).bind fun cs => (r.plainRun n (k + 1) len).map (cs ++ ·) := by
  simp only [plainRun, Option.bind_eq_bind, Option.pure_def]
  cases r.plainStep n k <;> cases r.plainRun n (k + 1) len <;> rfl

theorem plainRun_add : ∀ (a b : Nat) (k : Int), r.plainRun n k (a + b) =
    (r.plainRun n k a).bind fun xs => (r.plainRun n (k + a) b).map (xs ++ ·)
  | 0, b, k => by simp
  | a + 1, b, k => by
    rw [show a + 1 + b = (a + b) + 1 by omega, plainRun_succ, plainRun_add a b, plainRun_succ]
    cases r.plainStep n k with
    | none => rfl
    | some cs =>
      cases r.plainRun n (k + 1) a with
      | none => rfl
      | some xs =>
        simp only [Option.bind_some, Option.map_some, Option.map_map]
        rw [show k + 1 + (a : Int) = k + ((a + 1 : Nat) : Int) by omega]
        congr 1
        funext ys
        simp

theorem plainRun_of_empty : ∀ {len : Nat} {k : Int},
    (∀ t : Nat, t < len → r.plainStep n (k + t) = some []) → r.plainRun n k len = some []
  | 0, _, _ => rfl
  | len + 1, k, h => by
    have h0 := h 0 (by omega)
    rw [Int.natCast_zero, Int.add_zero] at h0
    rw [plainRun_succ, h0, Option.bind_some,
      plainRun_of_empty fun t ht => by
        simpa [Int.add_assoc, Int.add_comm 1] using h (t + 1) (by omega)]
    rfl

end Rule

/-! ## The arithmetic of a jump -/

theorem jump_lt {g s t : Int} (hs : 0 ≤ s) (ht1 : 1 ≤ t) (ht : t < max 1 ((g + s - 1) / s)) :
    t * s < g := by
  have hq : t < (g + s - 1) / s := by omega
  -- a step of zero jumps by one, so passes over nothing
  have hs0 : 0 < s := by
    rcases hs.lt_or_eq with h | h
    · exact h
    · subst h
      simp at hq
      omega
  have hmul : (t + 1) * s ≤ g + s - 1 := (Int.le_ediv_iff_mul_le hs0).1 (by omega)
  linarith

theorem jump_le {C B s t : Int} (hs : 0 ≤ s) (ht1 : 1 ≤ t)
    (ht : t < max 1 (((B - C) / nanosPerSecond + s - 1) / s)) :
    C ≤ C + t * s * nanosPerSecond ∧ C + t * s * nanosPerSecond ≤ B - nanosPerSecond := by
  have hts := jump_lt hs ht1 ht
  have hg : (B - C) / nanosPerSecond * nanosPerSecond ≤ B - C :=
    Int.ediv_mul_le _ (by decide)
  have hts0 : 0 ≤ t * s := Int.mul_nonneg (by omega) hs
  generalize t * s = ts at hts hts0 ⊢
  generalize (B - C) / nanosPerSecond = g at hts hg
  simp only [nanosPerSecond] at *
  omega

/-! ## Wall times within one day, hour or minute -/

namespace WallTime

theorem nanosInRange_of_addSeconds? {t u : WallTime} {s : Int} (h : t.addSeconds? s = some u) :
    nanosInRange u.nanos = true := by
  unfold addSeconds? at h
  dsimp only at h
  split at h
  · cases h
    assumption
  · cases h

theorem date_eq_of_day {t u : WallTime} (h : t.nanos / nanosPerDay = u.nanos / nanosPerDay) :
    t.date = u.date := by
  unfold date
  rw [h]

theorem hour_eq_of_hour {t u : WallTime}
    (h : t.nanos / (3600 * nanosPerSecond) = u.nanos / (3600 * nanosPerSecond)) :
    t.date = u.date ∧ t.hour = u.hour := by
  refine ⟨date_eq_of_day ?_, ?_⟩
  · simp only [nanosPerDay, secondsPerDay, nanosPerSecond] at *
    omega
  · simp only [hour, secondOfDay, nanosPerDay, secondsPerDay, nanosPerSecond] at *
    omega

theorem minute_eq_of_minute {t u : WallTime}
    (h : t.nanos / (60 * nanosPerSecond) = u.nanos / (60 * nanosPerSecond)) :
    t.date = u.date ∧ t.hour = u.hour ∧ t.minute = u.minute := by
  refine ⟨date_eq_of_day ?_, ?_, ?_⟩
  · simp only [nanosPerDay, secondsPerDay, nanosPerSecond] at *
    omega
  · simp only [hour, secondOfDay, nanosPerDay, secondsPerDay, nanosPerSecond] at *
    omega
  · simp only [minute, secondOfDay, nanosPerDay, secondsPerDay, nanosPerSecond] at *
    omega

end WallTime

/-! ## One period of an intraday rule -/

namespace Rule

variable {r : Rule} {n : WallTime} {k : Int} {p : Period}

theorem skip_spec {C B : WallTime} (hC : r.stepTime? n k = some C)
    (hB : nanosInRange B.nanos = true ∧ ∀ u : WallTime, C.nanos ≤ u.nanos →
      u.nanos ≤ B.nanos - nanosPerSecond → r.slotPasses u = false)
    (hCrej : r.slotPasses C = false)
    (h : (if inCountRange (k + max 1 (((B.nanos - C.nanos) / nanosPerSecond +
        r.frequency.unitSeconds * r.interval - 1) / (r.frequency.unitSeconds * r.interval))) = true
      then some (⟨C, [], k + max 1 (((B.nanos - C.nanos) / nanosPerSecond +
        r.frequency.unitSeconds * r.interval - 1) / (r.frequency.unitSeconds * r.interval))⟩ : Period)
      else none) = some p) :
    p.start = C ∧ r.slotPasses C = false ∧ p.candidates = [] ∧ k < p.next ∧
      ∀ j, k < j → j < p.next → ∃ t, r.stepTime? n j = some t ∧ r.slotPasses t = false := by
  split at h
  · cases h
    refine ⟨rfl, hCrej, rfl, ?_, fun j hj₁ hj₂ => ?_⟩
    · show k < k + max 1 _
      omega
    have hs : 0 ≤ r.frequency.unitSeconds * r.interval :=
      Int.mul_nonneg r.frequency.unitSeconds_nonneg (Int.natCast_nonneg _)
    have hj : j < k + max 1 (((B.nanos - C.nanos) / nanosPerSecond +
        r.frequency.unitSeconds * r.interval - 1) / (r.frequency.unitSeconds * r.interval)) := hj₂
    obtain ⟨hlo, hhi⟩ := jump_le (C := C.nanos) (B := B.nanos) (t := j - k) hs (by omega) (by omega)
    -- step `j` lies `j - k` steps after step `k`
    have hCn := WallTime.nanos_addSeconds? hC
    have hu : n.nanos + j * (r.frequency.unitSeconds * r.interval) * nanosPerSecond =
        C.nanos + (j - k) * (r.frequency.unitSeconds * r.interval) * nanosPerSecond := by
      rw [hCn]
      ring
    have hCin := nanosInRange_iff.1 (WallTime.nanosInRange_of_addSeconds? hC)
    have hBin := nanosInRange_iff.1 hB.1
    refine ⟨⟨C.nanos + (j - k) * (r.frequency.unitSeconds * r.interval) * nanosPerSecond⟩, ?_,
      hB.2 _ hlo hhi⟩
    rw [stepTime?, WallTime.addSeconds?_of_inRange (nanosInRange_iff.2 (by
      rw [hu]; simp only [nanosPerSecond] at *; omega)), hu]
  · cases h

/-! ## Each filter that rejects a step rejects the wall times up to its boundary -/

theorem slotPasses_of_day {t : WallTime} (h : (!r.dayMatches t.date) = true) :
    r.slotPasses t = false := by
  simp_all [slotPasses]

theorem slotPasses_of_hour {t : WallTime}
    (h : (!r.byHour.isEmpty && !r.byHour.contains t.hour) = true) : r.slotPasses t = false := by
  simp_all [slotPasses]

theorem slotPasses_of_minute {t : WallTime} (hf : r.frequency ≠ .hourly)
    (h : (!r.byMinute.isEmpty && !r.byMinute.contains t.minute) = true) :
    r.slotPasses t = false := by
  unfold slotPasses
  split <;> simp_all

theorem slotPasses_of_second {t : WallTime} (hf : r.frequency ≠ .hourly)
    (hf' : r.frequency ≠ .minutely)
    (h : (!r.bySecond.isEmpty && !r.bySecond.contains t.second) = true) :
    r.slotPasses t = false := by
  unfold slotPasses
  split <;> simp_all

theorem rejects_within_day {C : WallTime} {next : Date} (hday : (!r.dayMatches C.date) = true)
    (hnext : C.date.addDays? 1 = some next) :
    nanosInRange next.midnight.nanos = true ∧ ∀ u : WallTime, C.nanos ≤ u.nanos →
      u.nanos ≤ next.midnight.nanos - nanosPerSecond → r.slotPasses u = false := by
  obtain ⟨h0, h1, hdays⟩ := (Date.addDays?_eq_some_iff (Date.valid_of_addDays? hnext)).1 hnext
  have hC := WallTime.toDays_date C
  have hmin : Date.minDays = -96465292 := by decide
  have hmax : Date.maxDays = 95026236 := by decide
  refine ⟨?_, fun u hu₁ hu₂ => slotPasses_of_day ?_⟩
  · rw [nanosInRange_iff]
    simp only [Date.midnight, WallTime.ofDays, nanosPerDay, secondsPerDay, nanosPerSecond] at *
    omega
  · rw [WallTime.date_eq_of_day (t := u) (u := C) ?_]
    · exact hday
    · simp only [Date.midnight, WallTime.ofDays, nanosPerDay, secondsPerDay, nanosPerSecond] at *
      omega

theorem rejects_within_hour {C B : WallTime}
    (hhour : (!r.byHour.isEmpty && !r.byHour.contains C.hour) = true)
    (hB : (WallTime.ofDays C.date.toDays (C.hour * 3600)).addSeconds? 3600 = some B) :
    nanosInRange B.nanos = true ∧ ∀ u : WallTime, C.nanos ≤ u.nanos →
      u.nanos ≤ B.nanos - nanosPerSecond → r.slotPasses u = false := by
  have hBn := WallTime.nanos_addSeconds? hB
  have hC := WallTime.toDays_date C
  refine ⟨WallTime.nanosInRange_of_addSeconds? hB, fun u hu₁ hu₂ => slotPasses_of_hour ?_⟩
  obtain ⟨-, hh⟩ := WallTime.hour_eq_of_hour (t := u) (u := C) (by
    simp only [WallTime.ofDays, WallTime.hour, WallTime.secondOfDay, nanosPerDay, secondsPerDay,
      nanosPerSecond] at *
    omega)
  rw [hh]
  exact hhour

theorem rejects_within_minute {C B : WallTime} (hf : r.frequency ≠ .hourly)
    (hminute : (!r.byMinute.isEmpty && !r.byMinute.contains C.minute) = true)
    (hB : (C.withSecond 0).addSeconds? 60 = some B) :
    nanosInRange B.nanos = true ∧ ∀ u : WallTime, C.nanos ≤ u.nanos →
      u.nanos ≤ B.nanos - nanosPerSecond → r.slotPasses u = false := by
  have hBn := WallTime.nanos_addSeconds? hB
  refine ⟨WallTime.nanosInRange_of_addSeconds? hB, fun u hu₁ hu₂ => slotPasses_of_minute hf ?_⟩
  obtain ⟨-, -, hm⟩ := WallTime.minute_eq_of_minute (t := u) (u := C) (by
    simp only [WallTime.withSecond, WallTime.second, WallTime.secondOfDay, nanosPerDay,
      secondsPerDay, nanosPerSecond] at *
    omega)
  rw [hm]
  exact hminute

theorem rejects_within_second {C B : WallTime} (hf : r.frequency ≠ .hourly)
    (hf' : r.frequency ≠ .minutely)
    (hsecond : (!r.bySecond.isEmpty && !r.bySecond.contains C.second) = true)
    (hB : C.addSeconds? 1 = some B) :
    nanosInRange B.nanos = true ∧ ∀ u : WallTime, C.nanos ≤ u.nanos →
      u.nanos ≤ B.nanos - nanosPerSecond → r.slotPasses u = false := by
  have hBn := WallTime.nanos_addSeconds? hB
  refine ⟨WallTime.nanosInRange_of_addSeconds? hB, fun u hu₁ hu₂ => slotPasses_of_second hf hf' ?_⟩
  obtain rfl : u = C := by
    cases u
    cases C
    simp only [WallTime.mk.injEq]
    simp only at hu₁ hu₂ hBn
    omega
  exact hsecond

theorem slotCandidates_of_hourly (hf : r.frequency = .hourly) (t : WallTime) :
    r.slotCandidates t = (valuesOr r.byMinute t.minute).flatMap fun m =>
      (valuesOr r.bySecond t.second).map fun s =>
        ⟨(WallTime.ofDays t.date.toDays (t.hour * 3600)).nanos +
          ((m * 60 + s : Nat) : Int) * nanosPerSecond⟩ := by
  simp only [slotCandidates, hf]
  congr 1
  funext m
  congr 1
  funext s
  simp only [WallTime.ofDays, WallTime.mk.injEq]
  push_cast
  ring

theorem slotCandidates_of_second (hf : r.frequency ≠ .hourly) (hf' : r.frequency ≠ .minutely)
    (t : WallTime) : r.slotCandidates t = [t] := by
  unfold slotCandidates
  split <;> simp_all

theorem slotPasses_eq_true {t : WallTime} (hday : ¬(!r.dayMatches t.date) = true)
    (hhour : ¬(!r.byHour.isEmpty && !r.byHour.contains t.hour) = true)
    (hminute : r.frequency = .hourly ∨
      ¬(!r.byMinute.isEmpty && !r.byMinute.contains t.minute) = true)
    (hsecond : r.frequency = .hourly ∨ r.frequency = .minutely ∨
      ¬(!r.bySecond.isEmpty && !r.bySecond.contains t.second) = true) :
    r.slotPasses t = true := by
  unfold slotPasses
  split <;> simp_all [or_iff_not_imp_left]

/-- One intraday step either keeps its wall time, with the slot's candidates, and moves to the next
step, or rejects it and jumps over steps that the same filter would reject as well. -/
theorem expandIntraday_cases (h : r.expandIntraday n k = some p) :
    ∃ C, r.stepTime? n k = some C ∧ p.start = C ∧
      (r.slotPasses C = true ∧ p.candidates = r.slotCandidates C ∧ p.next = k + 1 ∨
       r.slotPasses C = false ∧ p.candidates = [] ∧ k < p.next ∧
         ∀ j, k < j → j < p.next → ∃ t, r.stepTime? n j = some t ∧ r.slotPasses t = false) := by
  unfold expandIntraday at h
  dsimp only at h
  split at h
  · simp at h
  obtain ⟨C, hC, h⟩ := Option.bind_eq_some_iff.1 h
  refine ⟨C, hC, ?_⟩
  -- the filters are tried coarsest first; each rejecting one ends the period at its own boundary
  split at h
  · rename_i hday
    obtain ⟨B, hB, h⟩ := Option.bind_eq_some_iff.1 h
    obtain ⟨hs, hskip⟩ := skip_spec hC (rejects_within_day hday hB) (slotPasses_of_day hday) h
    exact ⟨hs, .inr hskip⟩
  rename_i hday
  split at h
  · rename_i hhour
    obtain ⟨B, hB, h⟩ := Option.bind_eq_some_iff.1 h
    obtain ⟨hs, hskip⟩ := skip_spec hC (rejects_within_hour hhour hB) (slotPasses_of_hour hhour) h
    exact ⟨hs, .inr hskip⟩
  rename_i hhour
  split at h
  · rename_i hf
    split at h
    · cases h
      exact ⟨rfl, .inl ⟨slotPasses_eq_true hday hhour (.inl hf) (.inl hf),
        (slotCandidates_of_hourly hf C).symm, rfl⟩⟩
    · cases h
  · rename_i hf
    split at h
    · rename_i hminute
      obtain ⟨B, hB, h⟩ := Option.bind_eq_some_iff.1 h
      have hf' : r.frequency ≠ .hourly := by simp [hf]
      obtain ⟨hs, hskip⟩ := skip_spec hC (rejects_within_minute hf' hminute hB)
        (slotPasses_of_minute hf' hminute) h
      exact ⟨hs, .inr hskip⟩
    rename_i hminute
    split at h
    · cases h
      exact ⟨rfl, .inl ⟨slotPasses_eq_true hday hhour (.inr hminute) (.inr (.inl hf)),
        by simp [slotCandidates, hf], rfl⟩⟩
    · cases h
  · rename_i hf hf'
    split at h
    · rename_i hminute
      obtain ⟨B, hB, h⟩ := Option.bind_eq_some_iff.1 h
      obtain ⟨hs, hskip⟩ := skip_spec hC (rejects_within_minute hf hminute hB)
        (slotPasses_of_minute hf hminute) h
      exact ⟨hs, .inr hskip⟩
    rename_i hminute
    split at h
    · rename_i hsecond
      obtain ⟨B, hB, h⟩ := Option.bind_eq_some_iff.1 h
      obtain ⟨hs, hskip⟩ := skip_spec hC (rejects_within_second hf hf' hsecond hB)
        (slotPasses_of_second hf hf' hsecond) h
      exact ⟨hs, .inr hskip⟩
    rename_i hsecond
    split at h
    · cases h
      refine ⟨rfl, .inl ⟨slotPasses_eq_true hday hhour (.inr hminute) (.inr (.inr hsecond)), ?_,
        rfl⟩⟩
      exact (slotCandidates_of_second hf hf' C).symm
    · cases h

/-! ## Skipping agrees with stepping -/

theorem plainStep_of_rejected {t : WallTime} (h : r.stepTime? n k = some t)
    (hp : r.slotPasses t = false) : r.plainStep n k = some [] := by
  simp [plainStep, h, hp]

theorem plainStep_of_passes {t : WallTime} (h : r.stepTime? n k = some t)
    (hp : r.slotPasses t = true) : r.plainStep n k = some (r.slotCandidates t) := by
  simp [plainStep, h, hp]

theorem plainRun_period (h : r.expandIntraday n k = some p) :
    k < p.next ∧ r.plainRun n k (p.next - k).toNat = some p.candidates := by
  obtain ⟨C, hC, -, hkeep | hskip⟩ := expandIntraday_cases h
  · obtain ⟨hpass, hcands, hnext⟩ := hkeep
    refine ⟨by omega, ?_⟩
    rw [hnext, show (k + 1 - k).toNat = 0 + 1 by omega, plainRun_succ, plainStep_of_passes hC hpass,
      hcands]
    simp
  · obtain ⟨hrej, hcands, hlt, hover⟩ := hskip
    refine ⟨hlt, ?_⟩
    rw [hcands]
    apply plainRun_of_empty
    intro t ht
    -- step `k` is the rejected one; the later ones are those the jump passes over
    rcases Nat.eq_zero_or_pos t with rfl | ht0
    · simpa using plainStep_of_rejected hC hrej
    · obtain ⟨u, hu, hup⟩ := hover (k + t) (by omega) (by omega)
      exact plainStep_of_rejected hu hup

theorem Visits.plainRun_eq {i j : Int} {ps : List Period} (hv : r.Visits n i ps j) :
    i + ps.length ≤ j ∧ r.plainRun n i (j - i).toNat = some (ps.flatMap Period.candidates) := by
  induction hv with
  | stop i => simp
  | @step i j p ps hp _ ih =>
    obtain ⟨hlt, hrun⟩ := plainRun_period hp
    obtain ⟨hlen, hrest⟩ := ih
    refine ⟨by simp only [List.length_cons]; omega, ?_⟩
    rw [show (j - i).toNat = (p.next - i).toNat + (j - p.next).toNat by omega, plainRun_add, hrun,
      Option.bind_some, show i + ((p.next - i).toNat : Int) = p.next by omega, hrest]
    simp

theorem expand_of_intraday (hf : r.frequency.isIntraday = true) (i : Int) :
    r.expand n i = .ok (r.expandIntraday n i) := by
  unfold expand
  split <;> simp_all [Frequency.isIntraday]

theorem candidatesFrom_visits (hf : r.frequency.isIntraday = true) :
    ∀ (m : Nat) (i : Int), ∃ ps j, r.Visits n i ps j ∧
      r.candidatesFrom n i m = .ok (ps.flatMap Period.candidates) ∧
      (ps.length = m ∨ r.expandIntraday n j = none)
  | 0, i => ⟨[], i, .stop i, rfl, .inl rfl⟩
  | m + 1, i => by
    cases hp : r.expandIntraday n i with
    | none =>
      have he : r.expand n i = .ok none := by rw [expand_of_intraday hf, hp]
      exact ⟨[], i, .stop i, candidatesFrom_succ_of_none he, .inr hp⟩
    | some p =>
      have he : r.expand n i = .ok (some p) := by rw [expand_of_intraday hf, hp]
      obtain ⟨ps, j, hv, hcs, hend⟩ := candidatesFrom_visits hf m p.next
      refine ⟨p :: ps, j, .step hp hv, ?_, ?_⟩
      · rw [candidatesFrom_succ_of_some he, hcs]
        rfl
      · simpa using hend

/-- An hourly, minutely or secondly walk yields, over any periods from any index, the candidates
of trying every step it passes in turn, up to where the walk stops. -/
theorem skipping_agrees_with_stepping (hf : r.frequency.isIntraday = true) (i : Int) (m : Nat) :
    ∃ ps j cs, r.Visits n i ps j ∧ i + ps.length ≤ j ∧ r.candidatesFrom n i m = .ok cs ∧
      r.plainRun n i (j - i).toNat = some cs ∧ (ps.length = m ∨ r.expandIntraday n j = none) := by
  obtain ⟨ps, j, hv, hcs, hend⟩ := candidatesFrom_visits hf m i
  obtain ⟨hlen, hrun⟩ := hv.plainRun_eq
  exact ⟨ps, j, _, hv, hlen, hcs, hrun, hend⟩

/-- Every fifth hour from 2024-08-27 09:00, kept at 09:00 and 17:00 on the hour and half hour:
the first three periods agree with plain stepping. -/
theorem skipping_agrees_with_stepping_five_hours :
    (Rule.mk .hourly 5 [] [] [] [9, 17] [0, 30] [] .mon .unbounded).frequency.isIntraday = true ∧
    ∃ ps j cs,
      (Rule.mk .hourly 5 [] [] [] [9, 17] [0, 30] [] .mon .unbounded).Visits
        ⟨1724749200000000000⟩ 0 ps j ∧ 0 + ps.length ≤ j ∧
      (Rule.mk .hourly 5 [] [] [] [9, 17] [0, 30] [] .mon .unbounded).candidatesFrom
        ⟨1724749200000000000⟩ 0 3 = .ok cs ∧
      (Rule.mk .hourly 5 [] [] [] [9, 17] [0, 30] [] .mon .unbounded).plainRun
        ⟨1724749200000000000⟩ 0 (j - 0).toNat = some cs ∧
      (ps.length = 3 ∨ (Rule.mk .hourly 5 [] [] [] [9, 17] [0, 30] [] .mon .unbounded).expandIntraday
        ⟨1724749200000000000⟩ j = none) :=
  ⟨rfl, skipping_agrees_with_stepping rfl 0 3⟩

end Rule

end Cadence
