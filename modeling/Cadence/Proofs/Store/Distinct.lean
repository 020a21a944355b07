import Cadence.Proofs.Schedule.Window
import Cadence.Proofs.Calendar.RenderInjective
/-!
# Stored records are distinct where days go forward

Storing an entry writes one record per occurrence and keeps a record once when it equals the one
before it (`dedupAdjacent_spec`). A format writes one unit of an instant: its day on the zone's
wall clock, or its second on the UTC clock, and two instants are written alike exactly when they
share that unit (`StorageFormat.renderIn_eq_iff`). Seconds follow the instants, and so do the days
of a zone whose wall clock never goes back to an earlier day (`TimeZone.DaysForward`). There the
records of ascending occurrences ascend, equal records can only be neighbours, and keeping
neighbours once keeps every record once (`Schedule.materialize_distinct`).

A zone that turns its clock back across midnight breaks this. Sitka turned its clock back a whole
day in October 1867; a date given in UTC on the repeated day falls between two occurrences of a
walk on the day after, and that day is stored twice, apart (`Schedule.materialize_repeats_day`).
-/
namespace Cadence

/-! ## Keeping neighbours once -/

section Dedup

variable {α : Type} [DecidableEq α]

theorem dedupOnto_eq_append (acc : List α) (last : α) (l : List α) :
    dedupOnto acc last l = acc.reverse ++ dedupOnto [] last l := by
  induction l generalizing acc last with
  | nil => simp [dedupOnto]
  | cons b rest ih =>
    rw [dedupOnto, dedupOnto]
    split
    · exact ih acc last
    · rw [ih (last :: acc) b, ih [last] b]
      simp

theorem dedupOnto_nil_spec (last : α) (l : List α) :
    ∃ l', dedupOnto [] last l = last :: l' ∧ l'.Sublist l ∧ (last :: l').IsChain (· ≠ ·) ∧
      ∀ x, x ∈ last :: l' ↔ x ∈ last :: l := by
  induction l generalizing last with
  | nil => exact ⟨[], rfl, .slnil, .singleton _, fun _ => Iff.rfl⟩
  | cons b rest ih =>
    rw [dedupOnto]
    split
    · -- `b` repeats `last` and is dropped
      rename_i hb
      obtain ⟨l', hl', hsub, hchain, hmem⟩ := ih last
      refine ⟨l', hl', hsub.cons b, hchain, fun x => ?_⟩
      rw [hmem, List.mem_cons, List.mem_cons, List.mem_cons, hb]
      tauto
    · -- `b` differs from `last` and is kept
      rename_i hb
      obtain ⟨l', hl', hsub, hchain, hmem⟩ := ih b
      refine ⟨b :: l', ?_, hsub.cons_cons b, .cons_cons (Ne.symm hb) hchain, fun x => ?_⟩
      · rw [dedupOnto_eq_append, hl']
        rfl
      · have hx := hmem x
        simp only [List.mem_cons] at hx ⊢
        tauto

/-- Keeping neighbours once keeps a sublist whose neighbours differ and which holds every value
of the list. -/
theorem dedupAdjacent_spec (l : List α) :
    (dedupAdjacent l).Sublist l ∧ (dedupAdjacent l).IsChain (· ≠ ·) ∧
      ∀ x, x ∈ dedupAdjacent l ↔ x ∈ l := by
  cases l with
  | nil => exact ⟨.slnil, .nil, fun _ => Iff.rfl⟩
  | cons a rest =>
    obtain ⟨l', hl', hsub, hchain, hmem⟩ := dedupOnto_nil_spec a rest
    rw [dedupAdjacent, hl']
    exact ⟨hsub.cons_cons a, hchain, hmem⟩

end Dedup

theorem isChain_lt_of_le_of_ne {β : Type} [PartialOrder β] :
    ∀ {l : List β}, l.IsChain (· ≤ ·) → l.IsChain (· ≠ ·) → l.IsChain (· < ·)
  | [], _, _ => .nil
  | [_], _, _ => .singleton _
  | _ :: _ :: _, hle, hne => by
    rw [List.isChain_cons_cons] at hle hne
    exact .cons_cons (lt_of_le_of_ne hle.1 hne.1) (isChain_lt_of_le_of_ne hle.2 hne.2)

/-! ## What a format writes -/

namespace StorageFormat

/-- What a format writes of an instant: its day on the zone's wall clock for dates, its second
for date-times. -/
def unit (f : StorageFormat) (z : TimeZone) (t : Instant) : Int :=
  match f with
  | .date => z.dayAt t
  | .dateTime => t.seconds

/-- Two instants are written alike exactly when they share what the format writes of them. -/
theorem renderIn_eq_iff (f : StorageFormat) (z : TimeZone) (t u : Instant) :
    f.renderIn z t = f.renderIn z u ↔ f.unit z t = f.unit z u := by
  cases f with
  | date => exact Date.render_ofDays_eq_iff
  | dateTime =>
    have hsec : ∀ v : Instant, (v.toWall 0).seconds = v.seconds := fun v => by
      simp [Instant.toWall, WallTime.seconds, Instant.seconds]
    rw [renderIn, renderIn, render, render, WallTime.renderSeconds_eq_iff, hsec, hsec]
    rfl

/-- What a format writes of an occurrence's start and end. -/
def units (f : StorageFormat) (z : TimeZone) (o : Occurrence) : Int × Int :=
  (f.unit z o.start, f.unit z o.stop)

theorem record_eq_iff (f : StorageFormat) (z : TimeZone) (a b : Occurrence) :
    (⟨f.renderIn z a.start, f.renderIn z a.stop⟩ : Record) =
        ⟨f.renderIn z b.start, f.renderIn z b.stop⟩ ↔ f.units z a = f.units z b := by
  rw [Record.mk.injEq, units, units, Prod.mk.injEq, renderIn_eq_iff, renderIn_eq_iff]

theorem unit_le {f : StorageFormat} {z : TimeZone} (hf : f = .date → z.DaysForward)
    {t u : Instant} (h : t ≤ u) : f.unit z t ≤ f.unit z u := by
  cases f with
  | date => exact hf rfl t u h
  | dateTime => exact Int.ediv_le_ediv (by decide) h

theorem pairwise_units_le {f : StorageFormat} {z : TimeZone} (hf : f = .date → z.DaysForward)
    {os : List Occurrence} {d : Int} (hsort : (os.map (·.start)).Pairwise (· < ·))
    (hdur : ∀ o ∈ os, o.stop.nanos = o.start.nanos + d) :
    os.Pairwise fun a b => f.units z a ≤ f.units z b := by
  refine (List.pairwise_map.1 hsort).imp_of_mem fun {a b} ha hb hab => ?_
  rw [Instant.lt_def] at hab
  have hstop : a.stop ≤ b.stop := by
    rw [Instant.le_def, hdur a ha, hdur b hb]
    omega
  exact Prod.mk_le_mk.2 ⟨unit_le hf ((Instant.le_def _ _).2 hab.le), unit_le hf hstop⟩

end StorageFormat

/-! ## The records of a schedule -/

namespace Schedule

variable {s : Schedule}

theorem materialize_eq_ok {h : Instant} {f : StorageFormat} {rs : List Record}
    (hm : s.materialize h f = .ok rs) :
    ∃ os, s.occurrences (some s.start) (some h) none = .ok os ∧
      rs = dedupAdjacent
        (os.map fun o => ⟨f.renderIn s.zone o.start, f.renderIn s.zone o.stop⟩) := by
  unfold materialize at hm
  cases hx : s.occurrences (some s.start) (some h) none with
  | error e =>
    rw [hx] at hm
    cases hm
  | ok os =>
    rw [hx] at hm
    cases hm
    exact ⟨os, rfl, rfl⟩

theorem occurrences_durations {lo hi : Option Instant} {xs : List Occurrence}
    (hr : s.Evaluates hi) (hx : s.occurrences lo hi none = .ok xs) :
    ∀ o ∈ xs, o.stop.nanos = o.start.nanos + s.duration := by
  obtain ⟨zs, hzs⟩ := hr.runsTo
  obtain ⟨n, hm⟩ := occurrences_eq_ok_take hzs hx
  exact durations_of_mapM hm

/-- Stored records are those of a sublist of the occurrences, in ascending units, and pairwise
distinct when the walks run to their ends and, for dates, the zone's days go forward. -/
theorem materialize_distinct {h : Instant} {f : StorageFormat} {rs : List Record}
    (hr : s.Reaches (some h)) (hf : f = .date → s.zone.DaysForward)
    (hm : s.materialize h f = .ok rs) :
    rs.Nodup ∧ ∃ os kept : List Occurrence, s.occurrences (some s.start) (some h) none = .ok os ∧
      kept.Sublist os ∧
      rs = kept.map (fun o => ⟨f.renderIn s.zone o.start, f.renderIn s.zone o.stop⟩) ∧
      (∀ o ∈ os, (⟨f.renderIn s.zone o.start, f.renderIn s.zone o.stop⟩ : Record) ∈ rs) ∧
      (kept.map fun o => f.unit s.zone o.start).Pairwise (· ≤ ·) := by
  obtain ⟨os, hx, rfl⟩ := materialize_eq_ok hm
  obtain ⟨hsub, hchain, hmem⟩ := dedupAdjacent_spec
    (os.map fun o => (⟨f.renderIn s.zone o.start, f.renderIn s.zone o.stop⟩ : Record))
  obtain ⟨kept, hkept, hrs⟩ := List.sublist_map_iff.1 hsub
  -- what is kept ascends by the units of start and end, and neighbours differ in them
  have hle : kept.Pairwise fun a b => f.units s.zone a ≤ f.units s.zone b :=
    (StorageFormat.pairwise_units_le hf (occurrences_sorted hr.evaluates hx).1
      (occurrences_durations hr.evaluates hx)).sublist hkept
  have hne : (kept.map (f.units s.zone)).IsChain (· ≠ ·) := by
    rw [hrs, List.isChain_map] at hchain
    rw [List.isChain_map]
    exact hchain.imp fun {a b} hab hk => hab ((StorageFormat.record_eq_iff f s.zone a b).2 hk)
  -- so it ascends strictly, and no two records are equal
  have hlt := (isChain_lt_of_le_of_ne (List.pairwise_map.2 hle).isChain hne).pairwise
  refine ⟨?_, os, kept, hx, hkept, hrs, fun o ho => (hmem _).2 (List.mem_map_of_mem ho), ?_⟩
  · rw [hrs, List.Nodup, List.pairwise_map]
    exact (List.pairwise_map.1 hlt).imp fun {a b} hab heq =>
      ne_of_lt hab ((StorageFormat.record_eq_iff f s.zone a b).1 heq)
  · rw [List.pairwise_map]
    exact hle.imp fun hab => (Prod.mk_le_mk.1 hab).1

/-- A daily event of one hour with three occurrences in New York from 01:30 EDT on 2 November
2024, across the change back to standard time, stored as dates: one record a day. -/
theorem materialize_distinct_daily :
    let s : Schedule := ⟨⟨some { Rule.every .daily with bound := .count 3 }, none, [], []⟩,
      ⟨1730525400000000000⟩, ⟨1730529000000000000⟩, TimeZone.newYork, 1000⟩
    let h : Instant := ⟨1731369600000000000⟩
    let rs : List Record := [⟨"2024-11-02", "2024-11-02"⟩, ⟨"2024-11-03", "2024-11-03"⟩,
      ⟨"2024-11-04", "2024-11-04"⟩]
    s.Reaches (some h) ∧ (StorageFormat.date = .date → s.zone.DaysForward) ∧
      s.materialize h .date = .ok rs ∧
      (rs.Nodup ∧ ∃ os kept : List Occurrence,
        s.occurrences (some s.start) (some h) none = .ok os ∧ kept.Sublist os ∧
        rs = kept.map (fun o => ⟨StorageFormat.date.renderIn s.zone o.start,
          StorageFormat.date.renderIn s.zone o.stop⟩) ∧
        (∀ o ∈ os, (⟨StorageFormat.date.renderIn s.zone o.start,
          StorageFormat.date.renderIn s.zone o.stop⟩ : Record) ∈ rs) ∧
        (kept.map fun o => StorageFormat.date.unit s.zone o.start).Pairwise (· ≤ ·)) := by
  intro s h rs
  -- the walk of the rule ends by its count, after the third day
  have hr : s.Reaches (some h) :=
    ⟨TimeZone.newYork_regular, fun _ h => by cases h; decide +kernel, by simp [s, Rule.upTo?],
      by simp [s],
      ⟨[⟨⟨1730525400000000000⟩, -14400⟩, ⟨⟨1730611800000000000⟩, -14400⟩,
          ⟨⟨1730701800000000000⟩, -18000⟩],
        Source.run_of_take (n := 4) (by decide +kernel) (by decide)⟩, ⟨[], .stop rfl⟩⟩
  have hf : StorageFormat.date = .date → s.zone.DaysForward := fun _ =>
    TimeZone.newYork_daysForward
  have hm : s.materialize h .date = .ok rs := by decide +kernel
  exact ⟨hr, hf, hm, materialize_distinct hr hf hm⟩

/-- Sitka turned its clock back a whole day on 19 October 1867, so an eighteen-hourly walk
stored as dates writes the 19th twice, on either side of the repeated 18th. -/
theorem materialize_repeats_day :
    let sitka : TimeZone :=
      ⟨"America/Sitka", ⟨⟨53927, 0, "LMT"⟩, #[(-3225223727, ⟨-32473, 0, "LMT"⟩)]⟩⟩
    let s : Schedule := ⟨⟨some { Rule.every .hourly with interval := 18, bound := .count 2 },
      none, [.utc ⟨-3225222000000000000⟩], []⟩, ⟨-3225272327000000000⟩, ⟨-3225272327000000000⟩,
      sitka, defaultMaxOccurrences⟩
    ¬ sitka.DaysForward ∧
      s.materialize ⟨-3224707200000000000⟩ .date = .ok [⟨"1867-10-19", "1867-10-19"⟩,
        ⟨"1867-10-18", "1867-10-18"⟩, ⟨"1867-10-19", "1867-10-19"⟩] := by
  intro sitka s
  -- a second before the change it is the 19th, at the change the 18th again
  have hback : ¬ sitka.DaysForward := fun hf =>
    absurd (hf ⟨-3225223728000000000⟩ ⟨-3225223727000000000⟩ (by decide)) (by decide +kernel)
  exact ⟨hback, by decide +kernel⟩

end Schedule

end Cadence
