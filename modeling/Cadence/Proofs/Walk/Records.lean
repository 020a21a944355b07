import Cadence.Proofs.Walk.Truncation
/-!
# A walk gives the running records of its candidates

A walk keeps a candidate not before its anchor when the zone resolves it to an instant later
than every instant it resolved before (`mem_keep_iff`). A walk of a rule without a bound gives,
in order, what it keeps of the candidates of the periods it expands from its first
(`Walk.given_eq_keep`). So a candidate is dropped exactly when an earlier candidate of the walk
resolved at or after it. Resolving keeps the order of wall times except in a gap, where a time
moves an hour later and may pass later candidates: in New York on 10 March 2024 a walk every 25
minutes from 01:35 meets 02:50, which becomes 03:50, and then drops 03:15 and 03:40, two
instants it never gives (`Walk.gap_drops_occurrences`).
-/
namespace Cadence

/-! ## Records -/

section Records

variable {z : TimeZone} {anchor : WallTime}

/-- What `keep` keeps of one candidate after the instant `last`. -/
def keepOne (z : TimeZone) (anchor : WallTime) (last : Option Instant) (c : WallTime) :
    Option ZonedTime :=
  if c < anchor then none
  else match z.resolve c with
    | none => none
    | some t => if (last.map fun l => decide (t.instant ≤ l)) = some true then none else some t

/-- The instant kept last after one candidate. -/
def keepOneLast (z : TimeZone) (anchor : WallTime) (last : Option Instant) (c : WallTime) :
    Option Instant :=
  ((keepOne z anchor last c).map ZonedTime.instant).or last

theorem keep_cons {last : Option Instant} {c : WallTime} {cs : List WallTime} :
    keep z anchor last (c :: cs) =
      (keepOne z anchor last c).toList ++ keep z anchor (keepOneLast z anchor last c) cs := by
  simp only [keep, keepOneLast, keepOne]
  by_cases hc : c < anchor
  · simp [hc]
  · cases hres : z.resolve c with
    | none => simp [hc]
    | some t =>
      by_cases hle : (last.map fun l => decide (t.instant ≤ l)) = some true
      · simp only [hc, hle, if_true, if_false]
        simp
      · simp only [hc, hle, if_false]
        simp

theorem keepLast_cons {last : Option Instant} {c : WallTime} {cs : List WallTime} :
    keepLast z anchor last (c :: cs) = keepLast z anchor (keepOneLast z anchor last c) cs := by
  unfold keepLast
  rw [keep_cons]
  cases h : keepOne z anchor last c with
  | none => simp [keepOneLast, h]
  | some t =>
    simp only [Option.toList_some, List.singleton_append, List.getLast?_cons, keepOneLast, h,
      Option.map_some, Option.some_or]
    cases (keep z anchor (some t.instant) cs).getLast? <;> rfl

theorem map_le_eq_some_true_iff {last : Option Instant} {u : Instant} :
    (last.map fun l => decide (u ≤ l)) = some true ↔ ∃ l ∈ last, u ≤ l := by
  cases last <;> simp

theorem keepOne_eq_some_iff {last : Option Instant} {c : WallTime} {t : ZonedTime} :
    keepOne z anchor last c = some t ↔
      ¬ c < anchor ∧ z.resolve c = some t ∧ ∀ l ∈ last, l < t.instant := by
  unfold keepOne
  by_cases hc : c < anchor
  · simp [hc]
  · cases hres : z.resolve c with
    | none => simp [hc]
    | some t₀ =>
      simp only [hc, if_false, map_le_eq_some_true_iff, Option.some.injEq, not_false_eq_true,
        true_and]
      split
      · rename_i hle
        obtain ⟨l, hl, hle⟩ := hle
        simp only [reduceCtorEq, false_iff, not_and]
        rintro rfl hlt
        exact Int.not_lt.2 hle (hlt l hl)
      · rename_i hnle
        simp only [Option.some.injEq]
        constructor
        · rintro rfl
          exact ⟨rfl, fun l hl => Int.lt_of_not_ge fun h => hnle ⟨l, hl, h⟩⟩
        · rintro ⟨rfl, -⟩
          rfl

theorem forall_keepOneLast_lt_iff {last : Option Instant} {c : WallTime} {u : Instant} :
    (∀ l ∈ keepOneLast z anchor last c, l < u) ↔
      (∀ l ∈ last, l < u) ∧ (¬ c < anchor → ∀ t, z.resolve c = some t → t.instant < u) := by
  unfold keepOneLast
  cases h : keepOne z anchor last c with
  | some t =>
    obtain ⟨hc, hres, hlast⟩ := keepOne_eq_some_iff.1 h
    simp only [Option.map_some, Option.some_or, Option.mem_def, Option.some.injEq, forall_eq',
      hc, not_false_eq_true, hres, forall_const]
    constructor
    · intro hlt
      exact ⟨fun l hl => Int.lt_trans (hlast l hl) hlt, hlt⟩
    · exact fun h => h.2
  | none =>
    simp only [Option.map_none, Option.none_or]
    constructor
    · intro hlast
      refine ⟨hlast, fun hc t hres => ?_⟩
      -- a candidate not kept resolves at or before the last instant kept
      have hnot : ¬ keepOne z anchor last c = some t := by simp [h]
      rw [keepOne_eq_some_iff] at hnot
      simp only [hc, not_false_eq_true, hres, true_and, not_forall] at hnot
      obtain ⟨l, hl, hle⟩ := hnot
      exact Int.lt_of_le_of_lt (Int.not_lt.1 hle) (hlast l hl)
    · exact fun h => h.1

/-- The candidate at some place in `cs` is not before the anchor and resolves to `t`, and
every candidate before it not before the anchor resolves to an earlier instant. -/
def Leads (z : TimeZone) (anchor : WallTime) (cs : List WallTime) (t : ZonedTime) : Prop :=
  ∃ pre c post, cs = pre ++ c :: post ∧ ¬ c < anchor ∧ z.resolve c = some t ∧
    ∀ c' ∈ pre, ¬ c' < anchor → ∀ t', z.resolve c' = some t' → t'.instant < t.instant

theorem leads_cons {c : WallTime} {cs : List WallTime} {t : ZonedTime} :
    Leads z anchor (c :: cs) t ↔ (¬ c < anchor ∧ z.resolve c = some t) ∨
      (Leads z anchor cs t ∧
        (¬ c < anchor → ∀ t', z.resolve c = some t' → t'.instant < t.instant)) := by
  constructor
  · rintro ⟨pre, c', post, hcs, hc', hres, hpre⟩
    cases pre with
    | nil =>
      obtain ⟨rfl, rfl⟩ := List.cons.inj hcs
      exact .inl ⟨hc', hres⟩
    | cons c₀ pre =>
      obtain ⟨rfl, rfl⟩ := List.cons.inj hcs
      exact .inr ⟨⟨pre, c', post, rfl, hc', hres, fun c'' hc'' => hpre c'' (.tail _ hc'')⟩,
        hpre _ List.mem_cons_self⟩
  · rintro (⟨hc, hres⟩ | ⟨⟨pre, c', post, rfl, hc', hres, hpre⟩, hfirst⟩)
    · exact ⟨[], c, cs, rfl, hc, hres, by simp⟩
    · refine ⟨c :: pre, c', post, rfl, hc', hres, fun c'' hc'' => ?_⟩
      rcases List.mem_cons.1 hc'' with rfl | hc''
      · exact hfirst
      · exact hpre c'' hc''

/-- `keep` keeps exactly the running records of the resolved candidates: instants later than
`last` that some candidate resolves to after only earlier instants. -/
theorem mem_keep_iff : ∀ {last : Option Instant} {cs : List WallTime} {t : ZonedTime},
    t ∈ keep z anchor last cs ↔ (∀ l ∈ last, l < t.instant) ∧ Leads z anchor cs t
  | _, [], t => by simp [keep, Leads]
  | last, c :: cs, t => by
    rw [keep_cons, List.mem_append, Option.mem_toList, keepOne_eq_some_iff,
      mem_keep_iff, forall_keepOneLast_lt_iff, leads_cons]
    tauto

theorem keep_append : ∀ {last : Option Instant} {xs ys : List WallTime},
    keep z anchor last (xs ++ ys) =
      keep z anchor last xs ++ keep z anchor (keepLast z anchor last xs) ys
  | last, [], ys => by simp [keep, keepLast]
  | last, c :: xs, ys => by
    rw [List.cons_append, keep_cons, keep_cons, keep_append, keepLast_cons, List.append_assoc]

theorem keepLast_append {last : Option Instant} {xs ys : List WallTime} :
    keepLast z anchor last (xs ++ ys) =
      keepLast z anchor (keepLast z anchor last xs) ys := by
  induction xs generalizing last with
  | nil => simp [keepLast, keep]
  | cons c xs ih => rw [List.cons_append, keepLast_cons, keepLast_cons, ih]

end Records

/-! ## The candidates of the periods a walk expands -/

/-- The candidates of `n` periods of a rule from index `i`, each period the `next` of the one
before; fewer periods when one leaves the calendar. -/
def Rule.candidatesFrom (r : Rule) (anchor : WallTime) :
    Int → Nat → Except CalendarError (List WallTime)
  | _, 0 => pure []
  | i, n + 1 => do
    match ← r.expand anchor i with
    | none => pure []
    | some p => pure (p.candidates ++ (← r.candidatesFrom anchor p.next n))

namespace Rule

variable {r : Rule} {anchor : WallTime} {i : Int} {n : Nat}

@[simp] theorem candidatesFrom_zero : r.candidatesFrom anchor i 0 = .ok [] := rfl

theorem candidatesFrom_succ_of_none (h : r.expand anchor i = .ok none) :
    r.candidatesFrom anchor i (n + 1) = .ok [] := by
  simp [candidatesFrom, h]

theorem candidatesFrom_succ_of_some {p : Period} (h : r.expand anchor i = .ok (some p)) :
    r.candidatesFrom anchor i (n + 1) =
      (r.candidatesFrom anchor p.next n).map (p.candidates ++ ·) := by
  simp only [candidatesFrom, h, Except.ok_bind]
  cases r.candidatesFrom anchor p.next n <;> rfl

end Rule

/-! ## A walk without a bound -/

namespace Walk

theorem pastEnd_of_upTo_none {w : Walk} (hu : w.upTo = none) (s : WallTime) :
    w.pastEnd s = .ok false := by
  simp [pastEnd, hu]

theorem absorbPeriod_unbounded {w : Walk} (hu : w.upTo = none) (hr : w.remaining = none)
    (p : Period) :
    (w.absorbPeriod p).pending = keep w.zone w.anchor w.last p.candidates ∧
      (w.absorbPeriod p).last = keepLast w.zone w.anchor w.last p.candidates ∧
      (w.absorbPeriod p).finished = w.finished ∧ (w.absorbPeriod p).remaining = none ∧
      (w.absorbPeriod p).rule = w.rule ∧ (w.absorbPeriod p).zone = w.zone ∧
      (w.absorbPeriod p).anchor = w.anchor ∧ (w.absorbPeriod p).upTo = none ∧
      (w.absorbPeriod p).period = p.next ∧ (w.absorbPeriod p).pos = 0 := by
  let v : Walk := { w with period := p.next, buffer := #[], pos := 0 }
  obtain ⟨hb, hl, hf, hrem⟩ := absorb_unbounded (w := v) hu hr p.candidates
  obtain ⟨hrule, hzone, hanchor, hupTo, hperiod, hpos⟩ := absorb_frame v p.candidates
  refine ⟨?_, hl, hf, hrem, hrule, hzone, hanchor, hupTo.trans hu, hperiod, hpos⟩
  show (v.absorb p.candidates).buffer.toList.drop (v.absorb p.candidates).pos = _
  rw [hpos, hb]
  simp [v]

theorem fill_unbounded : ∀ {fuel : Nat} {w w' : Walk}, w.upTo = none → w.remaining = none →
    w.finished = false → w.buffer.size ≤ w.pos → w.fill fuel = .ok w' →
    ∃ m cs, m ≤ fuel ∧ w.rule.candidatesFrom w.anchor w.period m = .ok cs ∧
      w'.pending = keep w.zone w.anchor w.last cs ∧
      w'.last = keepLast w.zone w.anchor w.last cs ∧
      w'.rule = w.rule ∧ w'.zone = w.zone ∧ w'.anchor = w.anchor ∧ w'.upTo = none ∧
      w'.remaining = none ∧
      (w'.finished = true → w'.buffer.size ≤ w'.pos ∧
        (m = fuel ∨ ∀ k, w.rule.candidatesFrom w.anchor w.period (m + k) = .ok cs)) ∧
      (w'.finished = false → ∀ k, w.rule.candidatesFrom w.anchor w.period (m + k) =
        (w.rule.candidatesFrom w.anchor w'.period k).map (cs ++ ·))
  | 0, w, _, hu, hr, _, hpos, h => by
    cases h
    exact ⟨0, [], le_rfl, rfl, pending_eq_nil hpos, by simp [keepLast, keep], rfl, rfl, rfl, hu,
      hr, fun _ => ⟨hpos, .inl rfl⟩, by simp⟩
  | fuel + 1, w, w', hu, hr, hf, hpos, h => by
    cases he : w.rule.expand w.anchor w.period with
    | error e => rw [fill_succ_of_error hpos hf he] at h; cases h
    | ok o =>
      cases o with
      | none =>
        rw [fill_succ_of_none hpos hf he] at h
        cases h
        exact ⟨1, [], by omega, Rule.candidatesFrom_succ_of_none he, pending_eq_nil hpos,
          by simp [keepLast, keep], rfl, rfl, rfl, hu, hr, fun _ => ⟨hpos, .inr fun k => by
            rw [Nat.add_comm]; exact Rule.candidatesFrom_succ_of_none he⟩, by simp⟩
      | some p =>
        rw [fill_succ_of_absorb hpos hf he (pastEnd_of_upTo_none hu _)] at h
        obtain ⟨hpend, hlast, hfin, hrem, hrule, hzone, hanchor, hupTo, hperiod, hpos'⟩ :=
          absorbPeriod_unbounded hu hr p
        have hone : w.rule.candidatesFrom w.anchor w.period 1 = .ok p.candidates := by
          rw [Rule.candidatesFrom_succ_of_some he]
          simp [Except.map]
        have hnext : ∀ k, w.rule.candidatesFrom w.anchor w.period (1 + k) =
            (w.rule.candidatesFrom w.anchor p.next k).map (p.candidates ++ ·) := by
          intro k
          rw [Nat.add_comm, Rule.candidatesFrom_succ_of_some he]
        split at h
        · rename_i hsize
          have hnone : keep w.zone w.anchor w.last p.candidates = [] := by
            rw [← hpend]
            exact pending_eq_nil (by omega)
          split at h
          · -- the fuel is spent: the guard ends the walk
            rename_i hfuel
            cases h
            exact ⟨1, p.candidates, by omega, hone, hpend, hlast, hrule, hzone, hanchor, hupTo,
              hrem, fun _ => ⟨by simp [hsize], .inl (by omega)⟩, by simp⟩
          · -- nothing kept: the fill goes on from the next period
            obtain ⟨m, cs, hm, hcs, hpend', hlast', hrule', hzone', hanchor', hupTo', hrem',
              hready, hcont⟩ := fill_unbounded hupTo hrem (hfin.trans hf) (by omega) h
            rw [hrule, hanchor, hperiod] at hcs hcont hready
            rw [hzone, hanchor, hlast] at hpend' hlast'
            refine ⟨m + 1, p.candidates ++ cs, by omega, ?_, ?_, ?_, hrule'.trans hrule,
              hzone'.trans hzone, hanchor'.trans hanchor, hupTo', hrem', fun hf' => ?_,
              fun hf' k => ?_⟩
            · rw [Rule.candidatesFrom_succ_of_some he, hcs]
              rfl
            · rw [keep_append, hnone, hpend']
              rfl
            · rw [keepLast_append, hlast']
            · -- what ends the walk later ends it here, one period further back
              obtain ⟨hready', hend⟩ := hready hf'
              refine ⟨hready', hend.imp (by omega) fun hall k => ?_⟩
              rw [show m + 1 + k = (m + k) + 1 by omega, Rule.candidatesFrom_succ_of_some he,
                hall k]
              rfl
            · rw [show m + 1 + k = (m + k) + 1 by omega, Rule.candidatesFrom_succ_of_some he,
                hcont hf' k]
              cases w.rule.candidatesFrom w.anchor w'.period k <;> simp [Except.map]
        · -- a value kept: the fill stops here
          cases h
          exact ⟨1, p.candidates, by omega, hone, hpend, hlast, hrule, hzone, hanchor, hupTo,
            hrem, fun hf' => absurd (hfin.symm.trans hf') (by simp [hf]),
            fun _ k => by rw [hperiod, hnext k]⟩

theorem given_unbounded : ∀ (n : Nat) {w : Walk}, w.upTo = none → w.remaining = none →
    ∃ m cs, w.rule.candidatesFrom w.anchor w.period m = .ok cs ∧
      Source.given w n = (w.pending ++ keep w.zone w.anchor w.last cs).take n
  | 0, _, _, _ => ⟨0, [], rfl, rfl⟩
  | n + 1, w, hu, hr => by
    by_cases hlt : w.pos < w.buffer.size
    · -- a value found is given first
      obtain ⟨m, cs, hcs, hgiven⟩ := given_unbounded n (w := { w with pos := w.pos + 1 }) hu hr
      refine ⟨m, cs, hcs, ?_⟩
      rw [Source.given_succ_of_some (next?_of_lt hlt), hgiven, pending_of_lt hlt]
      rfl
    have hpos : w.buffer.size ≤ w.pos := by omega
    cases hf : w.finished with
    | true =>
      refine ⟨0, [], rfl, ?_⟩
      rw [Source.given_succ_of_none (next?_of_finished hf hpos), pending_eq_nil hpos]
      rfl
    | false =>
      cases hfill : w.fill maxEmptyPeriods with
      | error e =>
        refine ⟨0, [], rfl, ?_⟩
        rw [Source.given_succ_of_error (by show next? w = _; rw [next?_of_le hpos, hfill]; rfl),
          pending_eq_nil hpos]
        rfl
      | ok w' =>
        obtain ⟨m, cs, -, hcs, hpend, hlast, hrule, hzone, hanchor, hupTo, hrem, hready, hcont⟩ :=
          fill_unbounded hu hr hf hpos hfill
        rw [given_of_fill hpos hfill]
        simp only [pending_eq_nil hpos, List.nil_append]
        by_cases hlt' : w'.pos < w'.buffer.size
        · -- the fill found a value: it comes first, then the rest from where the fill stopped
          -- an unbounded fill ends a walk only with nothing found
          have hf' : w'.finished = false := by
            cases hfw : w'.finished
            · rfl
            · exact absurd (hready hfw).1 (by omega)
          obtain ⟨m', cs', hcs', hgiven⟩ :=
            given_unbounded n (w := { w' with pos := w'.pos + 1 }) hupTo hrem
          refine ⟨m + m', cs ++ cs', ?_, ?_⟩
          · rw [hcont hf' m']
            simp only [hrule, hanchor] at hcs'
            rw [hcs']
            rfl
          · rw [Source.given_succ_of_some (next?_of_lt hlt'), hgiven, keep_append, ← hpend,
              ← hlast, pending_of_lt hlt']
            simp only [hzone, hanchor]
            rfl
        · have hfin := (fill_ready hfill).resolve_left hlt'
          refine ⟨m, cs, hcs, ?_⟩
          rw [Source.given_succ_of_none (next?_of_finished hfin (by omega)), ← hpend,
            pending_eq_nil (by omega)]
          rfl

/-- An unbounded walk gives, in order, the running records of the resolved candidates of its
periods; any other resolved candidate is dropped, though its instant may never come. -/
theorem given_records {r : Rule} (hb : r.bound = .unbounded) (z : TimeZone) (a : ZonedTime)
    (n : Nat) :
    ∃ m cs, r.candidatesFrom a.wall 0 m = .ok cs ∧
      Source.given (start r z a) n = (keep z a.wall none cs).take n ∧
      ∀ t, t ∈ keep z a.wall none cs ↔ Leads z a.wall cs t := by
  have hu : (start r z a).upTo = none := by simp [start, Rule.upTo?, hb]
  have hr : (start r z a).remaining = none := by simp [start, Rule.count?, hb]
  obtain ⟨m, cs, hcs, hgiven⟩ := given_unbounded n hu hr
  refine ⟨m, cs, hcs, ?_, fun t => ?_⟩
  · rw [hgiven, pending_eq_nil (by simp [start])]
    rfl
  · rw [mem_keep_iff]
    simp

theorem given_records_minutely :
    ∃ m cs, (Rule.every .minutely).candidatesFrom ⟨1710034500000000000⟩ 0 m = .ok cs ∧
      Source.given (start (Rule.every .minutely) ⟨"UTC", ⟨⟨0, 0, "UTC"⟩, #[]⟩⟩
        ⟨⟨1710034500000000000⟩, 0⟩) 3 = (keep ⟨"UTC", ⟨⟨0, 0, "UTC"⟩, #[]⟩⟩
          ⟨1710034500000000000⟩ none cs).take 3 ∧
      ∀ t, t ∈ keep ⟨"UTC", ⟨⟨0, 0, "UTC"⟩, #[]⟩⟩ ⟨1710034500000000000⟩ none cs ↔
        Leads ⟨"UTC", ⟨⟨0, 0, "UTC"⟩, #[]⟩⟩ ⟨1710034500000000000⟩ cs t :=
  given_records rfl _ ⟨⟨1710034500000000000⟩, 0⟩ 3

/-- In New York on 10 March 2024 a walk every 25 minutes from 01:35 meets 03:15, which the
zone shows, but 02:50 has become 03:50 before it, so 03:15 is never given. -/
theorem gap_drops_occurrences :
    ({ Rule.every .minutely with interval := 25 } : Rule).candidatesFrom ⟨1710034500000000000⟩
        0 5 = .ok [⟨1710034500000000000⟩, ⟨1710036000000000000⟩, ⟨1710037500000000000⟩,
          ⟨1710039000000000000⟩, ⟨1710040500000000000⟩] ∧
      (⟨"EST5EDT", ⟨⟨-18000, 0, "EST"⟩, #[(1710054000, ⟨-18000, 3600, "EDT"⟩)]⟩⟩ :
        TimeZone).resolve ⟨1710040500000000000⟩ = some ⟨⟨1710054900000000000⟩, -14400⟩ ∧
      Source.given (start { Rule.every .minutely with interval := 25 }
          ⟨"EST5EDT", ⟨⟨-18000, 0, "EST"⟩, #[(1710054000, ⟨-18000, 3600, "EDT"⟩)]⟩⟩
          ⟨⟨1710052500000000000⟩, -18000⟩) 5 =
        [⟨⟨1710052500000000000⟩, -18000⟩, ⟨⟨1710054000000000000⟩, -14400⟩,
          ⟨⟨1710055500000000000⟩, -14400⟩, ⟨⟨1710057000000000000⟩, -14400⟩,
          ⟨⟨1710057900000000000⟩, -14400⟩] := by
  decide +kernel

end Walk

end Cadence
