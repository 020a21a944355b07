import Cadence.Walk.Combined
import Cadence.Proofs.Walk.Anchor
import Cadence.Proofs.Walk.Order
import Cadence.Proofs.Stream.Difference
/-!
# The occurrences of a definition

The occurrences of a definition are `(RRULE ∪ RDATE) − (EXRULE ∪ EXDATE)`, with the days of
date-only EXDATEs left out. When both rules' walks run to their ends, the occurrences run to the
candidates (`ordUnion` of the RRULE walk and the RDATEs) that the excluded side (`ordUnion` of
the EXRULE walk and the other EXDATEs) does not hold, on days not excluded
(`Definition.run_occurrences`). They ascend; and unless the difference gives up, after
`maxConsecutiveExclusions` excluded candidates in a row, an instant occurs exactly when the
definition says it should (`Definition.occurrences_spec`).
-/
namespace Cadence

/-! ## Walks in their zone -/

namespace Walk

/-- Every value a walk has found carries its zone's offset at its instant. -/
structure Shown (z : TimeZone) (w : Walk) : Prop where
  zone_eq : w.zone = z
  buffer_shows : ∀ t ∈ w.buffer.toList, z.Shows t

section Shown

variable {z : TimeZone} {w w' : Walk}

theorem shown_start (r : Rule) (z : TimeZone) (a : ZonedTime) : Shown z (start r z a) :=
  ⟨rfl, by simp [start]⟩

theorem Shown.withHorizon (hw : Shown z w) (H : Option ZonedTime) : Shown z (w.withHorizon H) := by
  cases H <;> exact ⟨hw.zone_eq, hw.buffer_shows⟩

theorem Shown.finish (hw : Shown z w) : Shown z { w with finished := true } :=
  ⟨hw.zone_eq, hw.buffer_shows⟩

theorem Shown.absorb (hz : z.Regular) (hw : Shown z w) (p : Period) :
    Shown z (w.absorbPeriod p) := by
  have hzone := (absorb_frame ({ w with period := p.next, buffer := #[], pos := 0 } : Walk)
    p.candidates).2.1
  refine ⟨hzone.trans hw.zone_eq, absorb_buffer_forall _ (by simp) ?_⟩
  intro c _ _ t ht
  rw [show ({ w with period := p.next, buffer := #[], pos := 0 } : Walk).zone = z
    from hw.zone_eq] at ht
  exact hz.resolve_offset ht

theorem Shown.step (hz : z.Regular) {a : ZonedTime} (hw : Shown z w)
    (h : next? w = .ok (some (a, w'))) : z.Shows a ∧ Shown z w' := by
  refine step_keeps (Shown z) (Q := fun a w' => z.Shows a ∧ Shown z w')
    (fun hw hv => fill_keeps (Shown z) Shown.finish (fun hw _ => hw.absorb hz _) hw hv)
    (fun hv hlt h => ?_) hw h
  -- the value given is one found, and the walk that gives it keeps the rest
  rw [next?_of_lt hlt] at h
  cases h
  exact ⟨hv.buffer_shows _ (Array.getElem_mem_toList hlt), hv.zone_eq, hv.buffer_shows⟩

end Shown

end Walk

/-! ## A walk that may be absent -/

namespace OptionWalk

theorem next?_none : Source.next? (none : Option Walk) = .ok none := rfl

theorem next?_some_of_some {w w' : Walk} {a : ZonedTime} (h : w.next? = .ok (some (a, w'))) :
    Source.next? (some w : Option Walk) = .ok (some (a, some w')) := by
  simp [Source.next?, h]

theorem next?_some_of_none {w : Walk} (h : w.next? = .ok none) :
    Source.next? (some w : Option Walk) = .ok none := by
  simp [Source.next?, h]

theorem next?_some_of_error {w : Walk} {e : CalendarError} (h : w.next? = .error e) :
    Source.next? (some w : Option Walk) = .error e := by
  simp [Source.next?, h]

theorem run_some {w : Walk} {xs : List ZonedTime} {r : Option CalendarError} :
    Source.Run (some w : Option Walk) xs r ↔ Source.Run w xs r := by
  constructor
  · intro h
    generalize ho : (some w : Option Walk) = o at h
    -- each answer of the walk is the answer of the walk present
    induction h generalizing w with
    | stop hs =>
      subst ho
      cases hw : w.next? with
      | error e => rw [next?_some_of_error hw] at hs; cases hs
      | ok x =>
        cases x with
        | none => exact .stop hw
        | some p => rw [next?_some_of_some hw] at hs; cases hs
    | fail hs =>
      subst ho
      cases hw : w.next? with
      | error e =>
        rw [next?_some_of_error hw] at hs
        cases hs
        exact .fail hw
      | ok x =>
        cases x with
        | none => rw [next?_some_of_none hw] at hs; cases hs
        | some p => rw [next?_some_of_some hw] at hs; cases hs
    | give hs _ ih =>
      subst ho
      cases hw : w.next? with
      | error e => rw [next?_some_of_error hw] at hs; cases hs
      | ok x =>
        cases x with
        | none => rw [next?_some_of_none hw] at hs; cases hs
        | some p =>
          rw [next?_some_of_some hw] at hs
          cases hs
          exact .give hw (ih rfl)
  · intro h
    induction h with
    | stop hs => exact .stop (next?_some_of_none hs)
    | fail hs => exact .fail (next?_some_of_error hs)
    | give hs _ ih => exact .give (next?_some_of_some hs) ih

theorem run_none {xs : List ZonedTime} {r : Option CalendarError}
    (h : Source.Run (none : Option Walk) xs r) : xs = [] ∧ r = none :=
  h.unique (.stop next?_none)

theorem fits : Source.Fits (σ := Option Walk) fun o => ∀ w ∈ o, ∃ x, Walk.Ordered x w := by
  intro o xs r ho h
  cases o with
  | none =>
    obtain ⟨rfl, -⟩ := run_none h
    exact Nat.zero_le _
  | some w =>
    obtain ⟨x, hw⟩ := ho w rfl
    exact hw.length_run_le (run_some.1 h)

theorem bounded : Source.Bounded (σ := Option Walk) fun o => ∀ w ∈ o, ∃ x, Walk.Ordered x w := by
  refine ⟨fun {o a o'} ho hs => ?_, fun {o xs} ho h => ?_⟩
  · cases o with
    | none => cases hs
    | some w =>
      obtain ⟨x, hw⟩ := ho w rfl
      cases hw' : w.next? with
      | error e => rw [next?_some_of_error hw'] at hs; cases hs
      | ok y =>
        cases y with
        | none => rw [next?_some_of_none hw'] at hs; cases hs
        | some p =>
          rw [next?_some_of_some hw'] at hs
          cases hs
          intro w' hw''
          cases hw''
          exact ⟨_, (hw.step hw').2.2⟩
  · exact fits ho h

theorem stops {o : Option Walk} (h : ∀ w ∈ o, ∃ x, Walk.Ordered x w) : Source.Stops o := by
  cases o with
  | none => exact ⟨[], none, .stop rfl⟩
  | some w =>
    obtain ⟨x, hw⟩ := h w rfl
    obtain ⟨xs, r, hrun⟩ := Walk.stops hw
    exact ⟨xs, r, run_some.2 hrun⟩

end OptionWalk

/-! ## Skipping excluded days -/

namespace Combined

variable {K : Difference Side Side ZonedTime → Prop}

/-- Whether a zoned time falls on none of the days. -/
def OnKeptDay (days : List Date) (t : ZonedTime) : Bool := !days.contains t.wall.date

theorem nextKept_run (hK : Source.Bounded K) (days : List Date) :
    ∀ {zs : List ZonedTime} {fuel : Nat} {d : Difference Side Side ZonedTime},
      Source.Run d zs none → K d → (zs.takeWhile fun t => !OnKeptDay days t).length < fuel →
      (nextKept days fuel d = .ok none ∧ zs.filter (OnKeptDay days) = []) ∨
      ∃ t d' zs', nextKept days fuel d = .ok (some (t, d')) ∧ Source.Run d' zs' none ∧ K d' ∧
        zs'.length < zs.length ∧ zs.filter (OnKeptDay days) = t :: zs'.filter (OnKeptDay days)
  | _, 0, _, _, _, hfuel => absurd hfuel (Nat.not_lt_zero _)
  | [], fuel + 1, d, h, _, _ => .inl ⟨by simp [nextKept, h.nil_inv], rfl⟩
  | t :: zs, fuel + 1, d, h, hd, hfuel => by
    obtain ⟨d', hs, hrest⟩ := h.cons_inv
    have hd' := hK.step hd hs
    by_cases hkept : OnKeptDay days t = true
    · refine .inr ⟨t, d', zs, ?_, hrest, hd', by simp, by simp [hkept]⟩
      have hday : t.wall.date ∉ days := by simpa [OnKeptDay] using hkept
      simp [nextKept, hs, hday]
    · -- a value on an excluded day is passed, with one value less of fuel
      have hday : t.wall.date ∈ days := by simpa [OnKeptDay] using hkept
      have hnext : nextKept days (fuel + 1) d = nextKept days fuel d' := by
        simp [nextKept, hs, hday]
      rw [List.takeWhile_cons_of_pos (p := fun t => !OnKeptDay days t) (by simpa using hkept),
        List.length_cons] at hfuel
      rw [hnext, List.filter_cons_of_neg hkept]
      rcases nextKept_run hK days hrest hd' (show _ < fuel by omega) with h' |
        ⟨t', d'', zs', hsome, hrun, hK', hlen, hfilter⟩
      · exact .inl h'
      · exact .inr ⟨t', d'', zs', hsome, hrun, hK', by simp; omega, hfilter⟩

theorem next?_eq (c : Combined) :
    Source.next? c = (do
      match ← nextKept c.excludedDays (Source.remaining c.inner + 1) c.inner with
      | none => pure none
      | some (t, d) => pure (some (t, ⟨d, c.excludedDays⟩))) := rfl

theorem run (hK : Source.Bounded K) {c : Combined} {zs : List ZonedTime} (hc : K c.inner)
    (h : Source.Run c.inner zs none) : Source.Run c (zs.filter (OnKeptDay c.excludedDays)) none := by
  -- each value given leaves an inner difference that runs to fewer values
  induction hn : zs.length using Nat.strong_induction_on generalizing c zs with
  | _ n ih =>
    have hfit := hK.fits hc h
    have htake := (List.takeWhile_prefix (p := fun t => !OnKeptDay c.excludedDays t)
      (l := zs)).length_le
    rcases nextKept_run hK c.excludedDays h hc
        (show _ < Source.remaining c.inner + 1 by omega) with
      ⟨hnone, hnil⟩ | ⟨t, d', zs', hsome, hrun, hd', hlen, hfilter⟩
    · rw [hnil]
      exact .stop (by rw [next?_eq, hnone]; rfl)
    · rw [hfilter]
      exact .give (by rw [next?_eq, hsome]; rfl)
        (ih _ (by omega) (c := ⟨d', c.excludedDays⟩) hd' hrun rfl)

end Combined

/-! ## Explicit dates, sorted -/

/-- One step of keeping the first of zoned times at equal instants, from the right. -/
def keepFirst (t : ZonedTime) : List ZonedTime → List ZonedTime
  | u :: acc => if u.instant = t.instant then t :: acc else t :: u :: acc
  | [] => [t]

theorem sortInstants_eq (ts : List ZonedTime) :
    sortInstants ts =
      (ts.mergeSort fun a b => a.instant.nanos ≤ b.instant.nanos).foldr keepFirst [] := by
  unfold sortInstants
  dsimp only
  congr 1
  funext t acc
  cases acc <;> rfl

theorem foldr_keepFirst {l : List ZonedTime}
    (hl : l.Pairwise fun a b => a.instant.nanos ≤ b.instant.nanos) :
    Ascending (l.foldr keepFirst []) ∧ (∀ t ∈ l.foldr keepFirst [], t ∈ l) ∧
      ∀ t ∈ l, ∃ u ∈ l.foldr keepFirst [], u.instant = t.instant := by
  induction l with
  | nil => simp [Ascending]
  | cons t l ih =>
    obtain ⟨htl, hl⟩ := List.pairwise_cons.1 hl
    obtain ⟨hasc, hsub, hcover⟩ := ih hl
    rw [List.foldr_cons]
    cases hr : l.foldr keepFirst [] with
    | nil =>
      rw [hr] at hcover
      -- the rest keeps nothing, so it is empty
      obtain rfl : l = [] := by
        cases l with
        | nil => rfl
        | cons v l =>
          obtain ⟨u, hu, -⟩ := hcover v List.mem_cons_self
          cases hu
      simp [keepFirst, Ascending]
    | cons u rest =>
      rw [hr] at hasc hsub hcover
      obtain ⟨hu, hrest⟩ := List.pairwise_cons.1 hasc
      have htu : t.instant.nanos ≤ u.instant.nanos := htl u (hsub u List.mem_cons_self)
      simp only [keepFirst]
      split
      · -- `t` takes the place of the value at its instant
        rename_i heq
        refine ⟨List.pairwise_cons.2 ⟨fun v hv => heq ▸ hu v hv, hrest⟩, ?_, ?_⟩
        · intro v hv
          rcases List.mem_cons.1 hv with rfl | hv
          · exact List.mem_cons_self
          · exact List.mem_cons_of_mem _ (hsub v (List.mem_cons_of_mem _ hv))
        · intro v hv
          rcases List.mem_cons.1 hv with rfl | hv
          · exact ⟨v, List.mem_cons_self, rfl⟩
          · obtain ⟨w, hw, hwv⟩ := hcover v hv
            rcases List.mem_cons.1 hw with rfl | hw
            · exact ⟨t, List.mem_cons_self, heq ▸ hwv⟩
            · exact ⟨w, List.mem_cons_of_mem _ hw, hwv⟩
      · -- `t` lies strictly below the first value kept, hence below all of them
        rename_i hne
        have hlt : t.instant.nanos < u.instant.nanos :=
          lt_of_le_of_ne htu fun h => hne (Instant.eq_of_nanos h.symm)
        refine ⟨List.pairwise_cons.2 ⟨fun v hv => ?_, hasc⟩, ?_, ?_⟩
        · rcases List.mem_cons.1 hv with rfl | hv
          · exact hlt
          · exact Int.lt_trans hlt (hu v hv)
        · intro v hv
          rcases List.mem_cons.1 hv with rfl | hv
          · exact List.mem_cons_self
          · exact List.mem_cons_of_mem _ (hsub v hv)
        · intro v hv
          rcases List.mem_cons.1 hv with rfl | hv
          · exact ⟨v, List.mem_cons_self, rfl⟩
          · obtain ⟨w, hw, hwv⟩ := hcover v hv
            exact ⟨w, List.mem_cons_of_mem _ hw, hwv⟩

theorem sortInstants_spec (ts : List ZonedTime) :
    Ascending (sortInstants ts) ∧ (∀ t ∈ sortInstants ts, t ∈ ts) ∧
      ∀ t ∈ ts, ∃ u ∈ sortInstants ts, u.instant = t.instant := by
  rw [sortInstants_eq]
  have hperm := List.mergeSort_perm ts fun a b => decide (a.instant.nanos ≤ b.instant.nanos)
  have hsorted : (ts.mergeSort fun a b => decide (a.instant.nanos ≤ b.instant.nanos)).Pairwise
      fun a b => decide (a.instant.nanos ≤ b.instant.nanos) :=
    List.pairwise_mergeSort (fun a b c hab hbc => by simp only [decide_eq_true_eq] at *; omega)
      (fun a b => by simp only [Bool.or_eq_true, decide_eq_true_eq]; omega) ts
  obtain ⟨hasc, hsub, hcover⟩ := foldr_keepFirst (hsorted.imp fun h => by simpa using h)
  exact ⟨hasc, fun t ht => hperm.subset (hsub t ht), fun t ht => hcover t (hperm.symm.subset ht)⟩

/-! ## Values in their zone -/

theorem TimeZone.Shows.eq_of_instant {z : TimeZone} {t u : ZonedTime} (ht : z.Shows t)
    (hu : z.Shows u) (h : t.instant = u.instant) : t = u := by
  obtain ⟨ti, toff⟩ := t
  obtain ⟨ui, uoff⟩ := u
  unfold TimeZone.Shows at ht hu
  simp only at ht hu h
  subst h
  rw [ht, hu]

theorem Stamp.shows_resolve {z : TimeZone} (hz : z.Regular) {s : Stamp} {tod : Int}
    {t : ZonedTime} (h : s.resolve z tod = some t) : z.Shows t := by
  cases s with
  | utc w =>
    cases h
    exact TimeZone.shows_zonedAt _ _
  | wall w => exact hz.resolve_offset h
  | date day => exact hz.resolve_offset h

/-! ## The occurrences of a definition -/

/-- What a side of a definition keeps for its bound: its walk, if it has one, is ordered. -/
def SideBound (u : Side) : Prop :=
  u.left.Holds (fun o => ∀ w ∈ o, ∃ x, Walk.Ordered x w) ∧ u.right.Holds fun _ => True

theorem bounded_side : Source.Bounded SideBound :=
  Union.bounded OptionWalk.bounded Source.bounded_list

theorem fits_side : Source.Fits SideBound :=
  Union.fits OptionWalk.fits Source.fits_list (fun _ h => OptionWalk.stops h)
    fun l _ => ⟨l, none, Source.run_list l⟩

/-- A run `ys` of the excluded walk that ends with `q`, or fails only after a value at or after
every value of `cs`: all that a difference with base `cs` pulls from it. -/
def Outlasts (cs ys : List ZonedTime) (q : Option CalendarError) : Prop :=
  q = none ∨ ∃ y ∈ ys, ∀ c ∈ cs, c.instant ≤ y.instant

theorem excludes_ordUnion {us vs : List ZonedTime} {c : ZonedTime} :
    Excludes (ordUnion us vs) c ↔ Excludes us c ∨ Excludes vs c :=
  exists_mem_ordUnion_iff

theorem excludes_filter_covered {ys vs : List ZonedTime} {y c : ZonedTime} (hy : y ∈ ys)
    (hc : c.instant ≤ y.instant) : Excludes (vs.filter (Covered ys)) c ↔ Excludes vs c := by
  constructor
  · rintro ⟨v, hv, hvc⟩
    exact ⟨v, List.mem_of_mem_filter hv, hvc⟩
  · rintro ⟨v, hv, hvc⟩
    refine ⟨v, List.mem_filter.2 ⟨hv, ?_⟩, hvc⟩
    simp only [Covered, List.any_eq_true, decide_eq_true_eq]
    exact ⟨y, hy, by rw [hvc]; exact hc⟩

namespace Definition

/-- The walk of one of a definition's rules, anchored at `a` in `z` and ended at `H`. -/
def ruleWalk (z : TimeZone) (a : ZonedTime) (H : Option ZonedTime) (r : Rule) : Walk :=
  (Walk.start r z a).withHorizon H

variable (d : Definition) (z : TimeZone) (a : ZonedTime)

/-- The RDATEs resolved in the zone, date-only ones at the anchor's time of day, sorted. -/
def includedDates : List ZonedTime :=
  sortInstants (d.rdates.filterMap fun s => s.resolve z (a.wall.nanos % nanosPerDay))

/-- The EXDATEs that are not date-only, resolved in the zone and sorted. -/
def excludedDates : List ZonedTime :=
  sortInstants (d.exdates.filterMap fun s =>
    if s.isDate then none else s.resolve z (a.wall.nanos % nanosPerDay))

/-- The days of the date-only EXDATEs. -/
def excludedDays : List Date := d.exdates.filterMap fun s => match s with
  | .date day => some day
  | _ => none

/-- The candidates: the values of the RRULE walk, `xs`, and the RDATEs. -/
def candidates (xs : List ZonedTime) : List ZonedTime := ordUnion xs (d.includedDates z a)

/-- The excluded values: those of the EXRULE walk, `ys`, and the EXDATEs not date-only. -/
def exclusions (ys : List ZonedTime) : List ZonedTime := ordUnion ys (d.excludedDates z a)

theorem occurrences_inner (H : Option ZonedTime) :
    (d.occurrences z a H).inner = Difference.ofSources
      (Union.ofSources (d.rrule.map (ruleWalk z a H)) (d.includedDates z a))
      (Union.ofSources (d.exrule.map (ruleWalk z a H)) (d.excludedDates z a)) := rfl

theorem occurrences_excludedDays (H : Option ZonedTime) :
    (d.occurrences z a H).excludedDays = d.excludedDays := rfl

theorem ordered_ruleWalk {H : Option ZonedTime} (o : Option Rule) :
    ∀ w ∈ o.map (ruleWalk z a H), ∃ x, Walk.Ordered x w := by
  intro w hw
  cases o with
  | none => cases hw
  | some r =>
    cases hw
    exact ⟨none, (Walk.ordered_start r z a).withHorizon H⟩

section Runs

variable {d z a} {H : Option ZonedTime} {xs ys : List ZonedTime} {q : Option CalendarError}

theorem ascending_of_run {o : Option Rule} {r : Option CalendarError}
    (h : Source.Run (o.map (ruleWalk z a H)) xs r) : Ascending xs := by
  cases o with
  | none =>
    obtain ⟨rfl, -⟩ := OptionWalk.run_none h
    exact List.Pairwise.nil
  | some rule => exact ((Walk.ordered_start rule z a).withHorizon H |>.run (OptionWalk.run_some.1 h)).1

theorem ascending_candidates (hxs : Source.Run (d.rrule.map (ruleWalk z a H)) xs none) :
    Ascending (d.candidates z a xs) :=
  ordUnion_ascending (ascending_of_run hxs) (sortInstants_spec _).1

theorem ascending_exclusions (hys : Source.Run (d.exrule.map (ruleWalk z a H)) ys q) :
    Ascending (d.exclusions z a ys) :=
  ordUnion_ascending (ascending_of_run hys) (sortInstants_spec _).1

theorem runs_inner (hxs : Source.Run (d.rrule.map (ruleWalk z a H)) xs none)
    (hys : Source.Run (d.exrule.map (ruleWalk z a H)) ys q)
    (hq : Outlasts (d.candidates z a xs) ys q) :
    ∃ ys', Difference.Runs SideBound SideBound (d.occurrences z a H).inner
      (d.candidates z a xs) ys' ∧ Ascending ys' ∧
      ∀ c ∈ d.candidates z a xs, Excludes ys' c ↔ Excludes (d.exclusions z a ys) c := by
  have hbase : Source.Run (d.occurrences z a H).inner.base (d.candidates z a xs) none :=
    Union.run_ofPeeks hxs (Source.run_list _)
  have hholds : SideBound (Union.ofSources (d.rrule.map (ruleWalk z a H)) (d.includedDates z a)) ∧
      SideBound (Union.ofSources (d.exrule.map (ruleWalk z a H)) (d.excludedDates z a)) :=
    ⟨⟨ordered_ruleWalk z a d.rrule, trivial⟩, ⟨ordered_ruleWalk z a d.exrule, trivial⟩⟩
  cases q with
  | none =>
    exact ⟨_, ⟨hbase, ⟨none, Union.run_ofPeeks hys (Source.run_list _), .inl rfl⟩, hholds.1,
      hholds.2⟩, ascending_exclusions hys, fun _ _ => Iff.rfl⟩
  | some e =>
    -- the failing walk leaves out the EXDATEs after its last value, none of which a candidate
    -- reaches
    obtain ⟨y, hy, hcy⟩ := hq.resolve_left (Option.some_ne_none e)
    have hrun : (d.occurrences z a H).inner.excluded.Run
        (ordUnion ys ((d.excludedDates z a).filter (Covered ys))) (some e) :=
      Union.run_ofPeeks_fail hys (Source.run_list _) (ascending_of_run hys) (sortInstants_spec _).1
    refine ⟨_, ⟨hbase, ⟨some e, hrun, .inr ⟨y, mem_ordUnion_of_left hy, fun c hc => ?_⟩⟩,
      hholds.1, hholds.2⟩, ordUnion_ascending (ascending_of_run hys)
      ((sortInstants_spec _).1.sublist List.filter_sublist), fun c hc => ?_⟩
    · rw [Bool.eq_false_iff, Ne, ZonedTime.isLT_compare]
      exact Int.not_lt.2 (hcy c hc)
    · rw [exclusions, excludes_ordUnion, excludes_ordUnion, excludes_filter_covered hy (hcy c hc)]

/-- When the RRULE walk runs to its end and the EXRULE walk outlasts the candidates, the
occurrences run to the candidates the difference leaves, on days not excluded. -/
theorem run_occurrences (hxs : Source.Run (d.rrule.map (ruleWalk z a H)) xs none)
    (hys : Source.Run (d.exrule.map (ruleWalk z a H)) ys q)
    (hq : Outlasts (d.candidates z a xs) ys q) :
    Source.Run (d.occurrences z a H)
      ((guardedDiff maxConsecutiveExclusions maxConsecutiveExclusions (d.candidates z a xs)
        (d.exclusions z a ys)).filter (Combined.OnKeptDay d.excludedDays)) none := by
  obtain ⟨ys', hruns, hasc, hex⟩ := runs_inner hxs hys hq
  rw [guardedDiff_congr _ (ascending_candidates hxs) (ascending_exclusions hys) hasc
    fun c hc => (hex c hc).symm]
  exact Combined.run (Difference.bounded bounded_side bounded_side fits_side) ⟨_, _, hruns⟩
    (Difference.run bounded_side bounded_side fits_side hruns)

end Runs

/-- A candidate the exclusions leave, on a day not excluded. -/
def keeps (ys : List ZonedTime) (t : ZonedTime) : Bool :=
  Combined.OnKeptDay d.excludedDays t && decide (¬ Excludes (d.exclusions z a ys) t)

/-- `t` occurs in `d` by the definition's own terms: the RRULE walk `xs` or an RDATE gives it, the
EXRULE walk `ys` does not, and no EXDATE is at it or, date-only, on its day. -/
def Occurs (xs ys : List ZonedTime) (t : ZonedTime) : Prop :=
  (t ∈ xs ∨ ∃ s ∈ d.rdates, s.resolve z (a.wall.nanos % nanosPerDay) = some t) ∧ t ∉ ys ∧
    (∀ s ∈ d.exdates, s.isDate = false → s.resolve z (a.wall.nanos % nanosPerDay) ≠ some t) ∧
    Stamp.date t.wall.date ∉ d.exdates

section Semantics

variable {d z a} {H : Option ZonedTime} {xs ys : List ZonedTime} {q : Option CalendarError}

theorem shows_of_run (hz : z.Regular) {o : Option Rule} {r : Option CalendarError}
    (h : Source.Run (o.map (ruleWalk z a H)) xs r) : ∀ t ∈ xs, z.Shows t := by
  cases o with
  | none =>
    obtain ⟨rfl, -⟩ := OptionWalk.run_none h
    simp
  | some rule =>
    exact Source.Run.forall (Walk.Shown z) z.Shows (fun _ _ _ hw hs => hw.step hz hs)
      (OptionWalk.run_some.1 h) ((Walk.shown_start rule z a).withHorizon H)

theorem mem_includedDates {t : ZonedTime} (h : t ∈ d.includedDates z a) :
    ∃ s ∈ d.rdates, s.resolve z (a.wall.nanos % nanosPerDay) = some t := by
  simpa using (sortInstants_spec _).2.1 t h

theorem mem_excludedDates {t : ZonedTime} (h : t ∈ d.excludedDates z a) :
    ∃ s ∈ d.exdates, s.isDate = false ∧ s.resolve z (a.wall.nanos % nanosPerDay) = some t := by
  obtain ⟨s, hs, hres⟩ := List.mem_filterMap.1 ((sortInstants_spec _).2.1 t h)
  cases hd : s.isDate
  · exact ⟨s, hs, hd, by simpa [hd] using hres⟩
  · simp [hd] at hres

theorem excludes_sortInstants {ts : List ZonedTime} {c : ZonedTime} :
    Excludes (sortInstants ts) c ↔ Excludes ts c := by
  constructor
  · rintro ⟨y, hy, hyc⟩
    exact ⟨y, (sortInstants_spec ts).2.1 y hy, hyc⟩
  · rintro ⟨y, hy, hyc⟩
    obtain ⟨u, hu, huy⟩ := (sortInstants_spec ts).2.2 y hy
    exact ⟨u, hu, huy.trans hyc⟩

theorem excludes_iff_mem {us : List ZonedTime} {t : ZonedTime} (hus : ∀ u ∈ us, z.Shows u)
    (ht : z.Shows t) : Excludes us t ↔ t ∈ us := by
  constructor
  · rintro ⟨u, hu, hut⟩
    rwa [← (hus u hu).eq_of_instant ht hut]
  · intro h
    exact ⟨t, h, rfl⟩

theorem mem_candidates_iff (hz : z.Regular) (hxs : ∀ x ∈ xs, z.Shows x) {t : ZonedTime}
    (ht : z.Shows t) :
    t ∈ d.candidates z a xs ↔
      t ∈ xs ∨ ∃ s ∈ d.rdates, s.resolve z (a.wall.nanos % nanosPerDay) = some t := by
  constructor
  · intro h
    rcases mem_of_mem_ordUnion h with h | h
    · exact .inl h
    · exact .inr (mem_includedDates h)
  · rintro (h | ⟨s, hs, hres⟩)
    · exact mem_ordUnion_of_left h
    · -- the RDATE kept at the instant of `t` is `t`, and so is a walk value there
      obtain ⟨u, hu, hut⟩ := (sortInstants_spec _).2.2 t
        ((List.mem_filterMap (f := fun s => s.resolve z (a.wall.nanos % nanosPerDay))).2
          ⟨s, hs, hres⟩)
      obtain ⟨s', -, hres'⟩ := mem_includedDates hu
      obtain rfl := (Stamp.shows_resolve hz hres').eq_of_instant ht hut
      rcases mem_ordUnion_of_right xs hu with h | ⟨x, hx, hxu⟩
      · exact h
      · obtain rfl := (hxs x hx).eq_of_instant (Stamp.shows_resolve hz hres')
          (ZonedTime.compare_eq_eq.1 hxu)
        exact mem_ordUnion_of_left hx

theorem excludes_exclusions_iff (hz : z.Regular) (hys : ∀ y ∈ ys, z.Shows y) {t : ZonedTime}
    (ht : z.Shows t) :
    Excludes (d.exclusions z a ys) t ↔
      t ∈ ys ∨ ∃ s ∈ d.exdates, s.isDate = false ∧
        s.resolve z (a.wall.nanos % nanosPerDay) = some t := by
  rw [exclusions, excludes_ordUnion, excludes_iff_mem hys ht, excludedDates,
    excludes_sortInstants]
  apply or_congr Iff.rfl
  constructor
  · rintro ⟨u, hu, hut⟩
    obtain ⟨s, hs, hres⟩ := List.mem_filterMap.1 hu
    cases hd : s.isDate
    · simp only [hd, Bool.false_eq_true, if_false] at hres
      obtain rfl := (Stamp.shows_resolve hz hres).eq_of_instant ht hut
      exact ⟨s, hs, hd, hres⟩
    · simp [hd] at hres
  · rintro ⟨s, hs, hd, hres⟩
    exact ⟨t, List.mem_filterMap.2 ⟨s, hs, by simp [hd, hres]⟩, rfl⟩

theorem onKeptDay_iff {t : ZonedTime} :
    Combined.OnKeptDay d.excludedDays t = true ↔ Stamp.date t.wall.date ∉ d.exdates := by
  simp only [Combined.OnKeptDay, Bool.not_eq_true', Bool.eq_false_iff, ne_eq,
    List.contains_iff_mem, excludedDays, List.mem_filterMap]
  apply not_congr
  constructor
  · rintro ⟨s, hs, hday⟩
    cases s with
    | date day =>
      cases hday
      exact hs
    | utc w => cases hday
    | wall w => cases hday
  · intro h
    exact ⟨_, h, rfl⟩

theorem mem_keeps_iff (hz : z.Regular) (hxs : ∀ x ∈ xs, z.Shows x) (hys : ∀ y ∈ ys, z.Shows y)
    {t : ZonedTime} :
    t ∈ (d.candidates z a xs).filter (d.keeps z a ys) ↔ d.Occurs z a xs ys t := by
  simp only [List.mem_filter, keeps, Bool.and_eq_true, decide_eq_true_eq]
  constructor
  · rintro ⟨hc, hday, hex⟩
    have ht : z.Shows t := by
      rcases mem_of_mem_ordUnion hc with h | h
      · exact hxs t h
      · obtain ⟨s, -, hres⟩ := mem_includedDates h
        exact Stamp.shows_resolve hz hres
    rw [excludes_exclusions_iff hz hys ht, not_or] at hex
    exact ⟨(mem_candidates_iff hz hxs ht).1 hc, hex.1,
      fun s hs hd hres => hex.2 ⟨s, hs, hd, hres⟩, onKeptDay_iff.1 hday⟩
  · rintro ⟨hin, hy, hex, hday⟩
    have ht : z.Shows t := by
      rcases hin with h | ⟨s, -, hres⟩
      · exact hxs t h
      · exact Stamp.shows_resolve hz hres
    refine ⟨(mem_candidates_iff hz hxs ht).2 hin, onKeptDay_iff.2 hday, ?_⟩
    rw [excludes_exclusions_iff hz hys ht]
    rintro (h | ⟨s, hs, hd, hres⟩)
    · exact hy h
    · exact hex s hs hd hres

theorem occurrences_eq_take (hxs : Source.Run (d.rrule.map (ruleWalk z a H)) xs none)
    (hys : Source.Run (d.exrule.map (ruleWalk z a H)) ys q) :
    ∃ k, ((guardedDiff maxConsecutiveExclusions maxConsecutiveExclusions (d.candidates z a xs)
        (d.exclusions z a ys)).filter (Combined.OnKeptDay d.excludedDays)) =
          ((d.candidates z a xs).take k).filter (d.keeps z a ys) ∧
      (k < (d.candidates z a xs).length →
        Stretch maxConsecutiveExclusions ((d.candidates z a xs).drop k) (d.exclusions z a ys)) := by
  obtain ⟨k, -, hrun, hstop⟩ := guardedDiff_self_spec maxConsecutiveExclusions
    (ascending_candidates hxs) (ascending_exclusions hys)
  refine ⟨k, ?_, hstop⟩
  rw [hrun, List.filter_filter]
  rfl

theorem occurrences_eq_filter (hxs : Source.Run (d.rrule.map (ruleWalk z a H)) xs none)
    (hys : Source.Run (d.exrule.map (ruleWalk z a H)) ys q)
    (hg : Guarded maxConsecutiveExclusions (d.candidates z a xs) (d.exclusions z a ys)) :
    ((guardedDiff maxConsecutiveExclusions maxConsecutiveExclusions (d.candidates z a xs)
        (d.exclusions z a ys)).filter (Combined.OnKeptDay d.excludedDays)) =
      (d.candidates z a xs).filter (d.keeps z a ys) := by
  rw [guardedDiff_of_guarded (ascending_candidates hxs) (ascending_exclusions hys) hg,
    List.filter_filter]
  rfl

theorem candidates_eq_nil (hr : d.rrule = none) (hrd : d.rdates = [])
    (hxs : Source.Run (d.rrule.map (ruleWalk z a H)) xs none) : d.candidates z a xs = [] := by
  rw [hr, Option.map_none] at hxs
  obtain ⟨rfl, -⟩ := OptionWalk.run_none hxs
  simp only [candidates, includedDates, hrd, List.filterMap_nil, ordUnion_nil_left]
  exact List.eq_nil_iff_forall_not_mem.2 fun t ht => by simpa using (sortInstants_spec []).2.1 t ht

theorem excludes_exclusions_addExdate (i : Instant) {c : ZonedTime} :
    Excludes ({ d with exdates := d.exdates ++ [Stamp.ofInstant i] }.exclusions z a ys) c ↔
      Excludes (d.exclusions z a ys) c ∨ i = c.instant := by
  simp only [exclusions, excludedDates, excludes_ordUnion, excludes_sortInstants,
    List.filterMap_append]
  simp [Excludes, Stamp.ofInstant, Stamp.isDate, Stamp.resolve, TimeZone.zonedAt, or_assoc]

theorem excludedDays_addExdate (i : Instant) :
    ({ d with exdates := d.exdates ++ [Stamp.ofInstant i] } : Definition).excludedDays =
      d.excludedDays := by
  simp [excludedDays, Stamp.ofInstant]

theorem keeps_addExdate (i : Instant) (t : ZonedTime) :
    ({ d with exdates := d.exdates ++ [Stamp.ofInstant i] } : Definition).keeps z a ys t =
      (decide (t.instant ≠ i) && d.keeps z a ys t) := by
  simp only [keeps, excludedDays_addExdate, excludes_exclusions_addExdate, not_or]
  by_cases hi : t.instant = i
  · simp [hi]
  · simp [hi, Ne.symm hi]

end Semantics

/-- The occurrences of a definition in a regular zone ascend and are what the exclusions leave, up
to where the difference gives up; with no such stretch, exactly what the definition says. -/
theorem occurrences_spec (hz : z.Regular) {H : Option ZonedTime} {xs ys : List ZonedTime}
    {q : Option CalendarError} (hxs : Source.Run (d.rrule.map (ruleWalk z a H)) xs none)
    (hys : Source.Run (d.exrule.map (ruleWalk z a H)) ys q)
    (hq : Outlasts (d.candidates z a xs) ys q) :
    ∃ zs, Source.Run (d.occurrences z a H) zs none ∧ Ascending zs ∧
      (∃ k, zs = ((d.candidates z a xs).take k).filter (d.keeps z a ys) ∧
        (k < (d.candidates z a xs).length →
          Stretch maxConsecutiveExclusions ((d.candidates z a xs).drop k)
            (d.exclusions z a ys))) ∧
      (Guarded maxConsecutiveExclusions (d.candidates z a xs) (d.exclusions z a ys) →
        ∀ t, t ∈ zs ↔ d.Occurs z a xs ys t) ∧
      (d.rrule = none → d.rdates = [] → zs = []) ∧
      ∀ i : Instant, Guarded maxConsecutiveExclusions (d.candidates z a xs)
          ({ d with exdates := d.exdates ++ [Stamp.ofInstant i] }.exclusions z a ys) →
        Source.Run ({ d with exdates := d.exdates ++ [Stamp.ofInstant i] }.occurrences z a H)
          (zs.filter fun t => t.instant ≠ i) none := by
  refine ⟨_, run_occurrences hxs hys hq, ?_, occurrences_eq_take hxs hys, ?_, ?_, ?_⟩
  · exact (ascending_candidates hxs).sublist
      ((List.filter_sublist).trans (guardedDiff_sublist _ _ _ _))
  · intro hg t
    rw [occurrences_eq_filter hxs hys hg]
    exact mem_keeps_iff hz (shows_of_run hz hxs) (shows_of_run hz hys)
  · intro hr hrd
    rw [candidates_eq_nil hr hrd hxs, List.sublist_nil.1 (guardedDiff_sublist _ _ _ _)]
    rfl
  · intro i hg'
    -- the added EXDATE excludes more, so there was no stretch before either
    have hg : Guarded maxConsecutiveExclusions (d.candidates z a xs) (d.exclusions z a ys) :=
      hg'.mono fun c hc => (excludes_exclusions_addExdate i).2 (.inl hc)
    have hrun := run_occurrences (d := { d with exdates := d.exdates ++ [Stamp.ofInstant i] })
      hxs hys hq
    rw [occurrences_eq_filter hxs hys hg, List.filter_filter]
    rw [occurrences_eq_filter (d := { d with exdates := d.exdates ++ [Stamp.ofInstant i] })
      hxs hys hg'] at hrun
    rwa [List.filter_congr fun t _ => keeps_addExdate i t] at hrun

/-- Three daily occurrences less the first two in New York from 01:30 EDT on 2 November 2024,
across the change back to standard time: the occurrences run to the candidates left, ascending. -/
theorem occurrences_spec_daily_except :
    let d : Definition := ⟨some { Rule.every .daily with bound := .count 3 },
      some { Rule.every .daily with bound := .count 2 }, [], []⟩
    let a : ZonedTime := ⟨⟨1730525400000000000⟩, -14400⟩
    let xs : List ZonedTime := [⟨⟨1730525400000000000⟩, -14400⟩, ⟨⟨1730611800000000000⟩, -14400⟩,
      ⟨⟨1730701800000000000⟩, -18000⟩]
    let ys : List ZonedTime := [⟨⟨1730525400000000000⟩, -14400⟩, ⟨⟨1730611800000000000⟩, -14400⟩]
    Source.Run (d.rrule.map (ruleWalk TimeZone.newYork a none)) xs none ∧
      Source.Run (d.exrule.map (ruleWalk TimeZone.newYork a none)) ys none ∧
      ∃ zs, Source.Run (d.occurrences TimeZone.newYork a none) zs none ∧ Ascending zs ∧
        ∃ k, zs = ((d.candidates TimeZone.newYork a xs).take k).filter
          (d.keeps TimeZone.newYork a ys) := by
  intro d a xs ys
  have hxs : Source.Run (d.rrule.map (ruleWalk TimeZone.newYork a none)) xs none :=
    Source.run_of_take (n := 4) (by decide +kernel) (by decide)
  have hys : Source.Run (d.exrule.map (ruleWalk TimeZone.newYork a none)) ys none :=
    Source.run_of_take (n := 3) (by decide +kernel) (by decide)
  obtain ⟨zs, hrun, hasc, ⟨k, hk, -⟩, -⟩ := occurrences_spec d TimeZone.newYork a
    TimeZone.newYork_regular hxs hys (.inl rfl)
  exact ⟨hxs, hys, zs, hrun, hasc, k, hk⟩

end Definition

end Cadence
