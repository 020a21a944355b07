import Cadence.Proofs.Rule.DefinitionText
import Cadence.Rule.Summary

/-!
# Summaries read their tables within bounds

A summary looks words up in the tables of its vocabulary by position: units by frequency, day
names from Monday, month names and abbreviations from January, and positions in the order of
`allowedPositions`. The tables of a vocabulary have fixed sizes (`Vocabulary.Sized`). For every
rule read from text, each position a summary looks up lies within its table, so what follows
the end of a table never reaches the summary (`Vocabulary.summaries_within_tables`): a summary
never falls back on the empty word of a missing entry. The month days of such a rule lie
within 31 of zero, so the English ordinal of a day counted from the end is that of a day counted
from the start, followed by `to last day`.
-/
namespace Cadence

namespace Vocabulary

/-- The tables of a vocabulary have the sizes of the English one: seven units and day names,
twelve month names and abbreviations, and six positions. -/
structure Sized (v : Vocabulary) : Prop where
  units : v.units.length = 7
  pluralUnits : v.pluralUnits.length = 7
  dayNames : v.dayNames.length = 7
  monthNames : v.monthNames.length = 12
  monthAbbreviations : v.monthAbbreviations.length = 12
  positions : v.positions.length = 6

theorem english_sized : english.Sized := ⟨rfl, rfl, rfl, rfl, rfl, rfl⟩

/-- The vocabulary with each table followed by the entries of the same table of `pad`. -/
def extend (v pad : Vocabulary) : Vocabulary :=
  { v with
    units := v.units ++ pad.units
    pluralUnits := v.pluralUnits ++ pad.pluralUnits
    dayNames := v.dayNames ++ pad.dayNames
    monthNames := v.monthNames ++ pad.monthNames
    monthAbbreviations := v.monthAbbreviations ++ pad.monthAbbreviations
    positions := v.positions ++ pad.positions }

variable {v : Vocabulary}

theorem describeDay_extend (hv : v.Sized) (pad : Vocabulary) (d : WeekdayNum) :
    (v.extend pad).describeDay d = v.describeDay d := by
  have hname : (v.dayNames ++ pad.dayNames).getD d.weekday.index "" =
      v.dayNames.getD d.weekday.index "" :=
    List.getD_append _ _ _ _ (hv.dayNames ▸ d.weekday.index_lt)
  unfold describeDay
  simp only [extend, hname]
  split
  · -- the position found is an index of `allowedPositions`, which has six entries
    rename_i i hi
    obtain ⟨p, -, hp⟩ := Option.bind_eq_some_iff.1 hi
    have hlt : i < v.positions.length := by
      rw [hv.positions]
      exact (List.idxOf?_eq_some_iff.1 hp).1
    rw [List.getD_append _ _ _ _ hlt]
  · rfl

theorem describeRule_extend (hv : v.Sized) (pad : Vocabulary) {r : Rule}
    (hmonth : ∀ m ∈ r.byMonth, 1 ≤ m ∧ m ≤ 12)
    (huntil : ∀ s, r.bound = .upTo s → s.calendarDate.Valid) :
    (v.extend pad).describeRule r = v.describeRule r := by
  have hindex : r.frequency.index < 7 := by cases r.frequency <;> decide
  have hu : (v.units ++ pad.units).getD r.frequency.index "" = v.units.getD r.frequency.index "" :=
    List.getD_append _ _ _ _ (hv.units ▸ hindex)
  have hp : (v.pluralUnits ++ pad.pluralUnits).getD r.frequency.index "" =
      v.pluralUnits.getD r.frequency.index "" :=
    List.getD_append _ _ _ _ (hv.pluralUnits ▸ hindex)
  have hdays : r.byDay.map (v.extend pad).describeDay = r.byDay.map v.describeDay :=
    List.map_congr_left fun d _ => describeDay_extend hv pad d
  have hmonths : r.byMonth.map (fun m => (v.monthNames ++ pad.monthNames).getD (m - 1) "") =
      r.byMonth.map (fun m => v.monthNames.getD (m - 1) "") :=
    List.map_congr_left fun m hm => List.getD_append _ _ _ _ (by
      rw [hv.monthNames]
      have := hmonth m hm
      omega)
  simp only [describeRule, hdays]
  simp only [extend, hu, hp, hmonths]
  -- what is left is the bound, where an `UNTIL` is written with the abbreviation of its month
  congr 1
  split
  · rfl
  · rfl
  · rename_i s hs
    obtain ⟨h1, h12, -⟩ := huntil s hs
    rw [List.getD_append _ _ _ _ (by rw [hv.monthAbbreviations]; omega)]

theorem describeRule_extend_of_wellFormed (hv : v.Sized) (pad : Vocabulary) {r : Rule}
    (hr : r.WellFormed) : (v.extend pad).describeRule r = v.describeRule r :=
  describeRule_extend hv pad (fun m hm => hr.byMonth.2 m hm) fun s hs => by
    have hc : s.Compact := by simpa [hs, Bound.WellFormed] using hr.bound
    cases s with
    | utc t => exact Date.ofDays_valid _
    | wall t => exact Date.ofDays_valid _
    | date d => exact hc.1

theorem dayOrdinal_of_lt {d : Int} (hd : d < -1) :
    dayOrdinal d = dayOrdinal (-d) ++ " to last day" := by
  have hne : d ≠ -1 := by omega
  have hne' : -d ≠ -1 := by omega
  have hpos : ¬ -d < 0 := by omega
  simp only [dayOrdinal, hne, hne', hpos, if_false, Int.natAbs_neg, if_pos (show d < 0 by omega),
    String.append_assoc]

/-- Summaries of rules read from text look every word up within the tables of a vocabulary of
the usual sizes, and a day counted from the end is written by its count from the start. -/
theorem summaries_within_tables (hv : v.Sized) (pad : Vocabulary) :
    (∀ text r, Rule.ofText text = .ok r →
      (v.extend pad).describeRule r = v.describeRule r ∧
      ∀ d ∈ r.byMonthDay, d ≠ 0 ∧ -31 ≤ d ∧ d ≤ 31 ∧
        (d < -1 → 2 ≤ -d ∧ dayOrdinal d = dayOrdinal (-d) ++ " to last day")) ∧
    (∀ text d, Definition.ofText text = .ok d →
      (v.extend pad).describeDefinition d = v.describeDefinition d) := by
  refine ⟨fun text r h => ?_, fun text d h => ?_⟩
  · have hr := Rule.wellFormed_of_ofText h
    refine ⟨describeRule_extend_of_wellFormed hv pad hr, fun d hd => ?_⟩
    obtain ⟨h0, hlo, hhi⟩ := hr.byMonthDay.2 d hd
    exact ⟨h0, hlo, hhi, fun hlt => ⟨by omega, dayOrdinal_of_lt hlt⟩⟩
  · -- a definition is summed up by its including rule, or by a phrase that is no table's
    have hd := Definition.sound_of_ofText h
    unfold describeDefinition
    split
    · rename_i r hr
      exact describeRule_extend_of_wellFormed hv pad (hd.rrule r hr)
    · rfl

/-- The English vocabulary has the usual sizes; followed by a second copy of its own tables, it
sums up every rule and definition read from text as before. -/
theorem summaries_within_tables_english :
    english.Sized ∧
      (∀ text r, Rule.ofText text = .ok r →
        (english.extend english).describeRule r = english.describeRule r ∧
        ∀ d ∈ r.byMonthDay, d ≠ 0 ∧ -31 ≤ d ∧ d ≤ 31 ∧
          (d < -1 → 2 ≤ -d ∧ dayOrdinal d = dayOrdinal (-d) ++ " to last day")) ∧
      (∀ text d, Definition.ofText text = .ok d →
        (english.extend english).describeDefinition d = english.describeDefinition d) :=
  ⟨english_sized, summaries_within_tables english_sized english⟩

end Vocabulary

end Cadence
