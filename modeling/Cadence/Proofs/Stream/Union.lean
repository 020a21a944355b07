import Cadence.Proofs.Stream.Run
/-!
# The ordered union of two sources

A source whose next value may have been looked at (`Peek`) runs as the source it wraps, with the
value looked at in front. The union of two sources that run to their end gives `ordUnion` of
their runs: the lesser head first, and one value, the left one, for two equal heads
(`Union.run_ofPeeks`). For ascending sources of zoned times this is the ascending list of the
instants of either side (`ordUnion_ascending`, `exists_mem_ordUnion_iff`). A union of bounded
sources is bounded (`Union.bounded`).
-/
namespace Cadence

namespace Peek

variable {σ α : Type} [Source σ α]

/-- The run of a source whose next value may have been looked at. -/
def Run : Peek σ α → List α → Option CalendarError → Prop
  | .later s, xs, r => Source.Run s xs r
  | .ahead a s, xs, r => ∃ ys, xs = a :: ys ∧ Source.Run s ys r
  | .ended, xs, r => xs = [] ∧ r = none

variable {p : Peek σ α} {a : α} {xs : List α} {r : Option CalendarError}

theorem force_of_cons (h : p.Run (a :: xs) r) :
    ∃ s, p.force = .ok (.ahead a s) ∧ Source.Run s xs r := by
  cases p with
  | later s =>
    cases h with
    | give hs hrest => exact ⟨_, by simp [force, hs], hrest⟩
  | ahead b s =>
    obtain ⟨ys, hys, hrest⟩ := h
    cases hys
    exact ⟨s, rfl, hrest⟩
  | ended => cases h.1

theorem force_of_nil (h : p.Run [] none) : p.force = .ok .ended := by
  cases p with
  | later s =>
    cases h with
    | stop hs => simp [force, hs]
  | ahead b s => simp [Run] at h
  | ended => rfl

theorem run_later {s : σ} : (Peek.later s).Run xs r ↔ Source.Run s xs r := Iff.rfl

theorem run_of_force {q : Peek σ α} (h : p.force = .ok q) (hq : q.Run xs r) : p.Run xs r := by
  cases p with
  | later s =>
    cases hs : Source.next? s with
    | error e => simp [force, hs] at h
    | ok o =>
      cases o with
      | none =>
        simp only [force, hs] at h
        cases h
        obtain ⟨rfl, rfl⟩ := hq
        exact .stop hs
      | some p =>
        obtain ⟨a, s'⟩ := p
        simp only [force, hs] at h
        cases h
        obtain ⟨ys, rfl, hys⟩ := hq
        exact .give hs hys
  | ahead b s =>
    cases h
    exact hq
  | ended =>
    cases h
    exact hq

theorem force_ne_later {q : Peek σ α} (h : p.force = .ok q) (s : σ) : q ≠ .later s := by
  rintro rfl
  cases p with
  | later s' =>
    cases hs : Source.next? s' with
    | error e => simp [force, hs] at h
    | ok o =>
      cases o with
      | none => simp [force, hs] at h
      | some p => simp [force, hs] at h
  | ahead b s' => cases h
  | ended => cases h

/-- A property of the source a peek wraps, if it wraps one. -/
def Holds (I : σ → Prop) : Peek σ α → Prop
  | .later s => I s
  | .ahead _ s => I s
  | .ended => True

variable {I : σ → Prop}

theorem Holds.force (hI : Source.Bounded I) {q : Peek σ α} (hp : p.Holds I)
    (h : p.force = .ok q) : q.Holds I := by
  cases p with
  | later s =>
    cases hs : Source.next? s with
    | error e => simp [force, hs] at h
    | ok o =>
      cases o with
      | none =>
        simp only [force, hs] at h
        cases h
        trivial
      | some p =>
        obtain ⟨a, s'⟩ := p
        simp only [force, hs] at h
        cases h
        exact hI.step hp hs
  | ahead b s =>
    cases h
    exact hp
  | ended =>
    cases h
    exact hp

theorem Holds.fits (hI : Source.Bounded I) (hp : p.Holds I) (h : p.Run xs none) :
    xs.length ≤ p.remaining := by
  cases p with
  | later s => exact hI.fits hp h
  | ahead b s =>
    obtain ⟨ys, rfl, hys⟩ := h
    simpa [remaining] using hI.fits hp hys
  | ended =>
    obtain ⟨rfl, -⟩ := h
    exact Nat.zero_le _

theorem Run.force {q : Peek σ α} (hp : p.Run xs r) (h : p.force = .ok q) : q.Run xs r := by
  cases p with
  | later s =>
    rw [run_later] at hp
    cases hp with
    | stop hs =>
      simp only [Peek.force, hs] at h
      cases h
      exact ⟨rfl, rfl⟩
    | fail hs => simp [Peek.force, hs] at h
    | give hs hrest =>
      simp only [Peek.force, hs] at h
      cases h
      exact ⟨_, rfl, hrest⟩
  | ahead a s =>
    cases h
    exact hp
  | ended =>
    cases h
    exact hp

theorem force_of_fail {e : CalendarError} (h : p.Run [] (some e)) : p.force = .error e := by
  cases p with
  | later s =>
    cases h with
    | fail hs => simp [force, hs]
  | ahead b s =>
    obtain ⟨ys, hys, -⟩ := h
    cases hys
  | ended => cases h.2

theorem Holds.fits_of (hI : Source.Fits I) (hp : p.Holds I) (h : p.Run xs r) :
    xs.length ≤ p.remaining := by
  cases p with
  | later s => exact hI hp h
  | ahead b s =>
    obtain ⟨ys, rfl, hys⟩ := h
    simpa [remaining] using hI hp hys
  | ended =>
    obtain ⟨rfl, -⟩ := h
    exact Nat.zero_le _

theorem Holds.stops (hp : p.Holds I) (hs : ∀ s, I s → Source.Stops s) : ∃ xs r, p.Run xs r := by
  cases p with
  | later s => exact hs s hp
  | ahead b s =>
    obtain ⟨xs, r, h⟩ := hs s hp
    exact ⟨b :: xs, r, xs, rfl, h⟩
  | ended => exact ⟨[], none, rfl, rfl⟩

end Peek

/-! ## The union of two runs -/

section OrdUnion

variable {α : Type} [Ord α]

/-- Two lists merged as the union of two sources gives them: the lesser head first, and one
value, the left one, for two equal heads. -/
def ordUnion : List α → List α → List α
  | [], ys => ys
  | a :: xs, [] => a :: xs
  | a :: xs, b :: ys =>
    match compare a b with
    | .lt => a :: ordUnion xs (b :: ys)
    | .gt => b :: ordUnion (a :: xs) ys
    | .eq => a :: ordUnion xs ys
termination_by xs ys => xs.length + ys.length

@[simp] theorem ordUnion_nil_left (ys : List α) : ordUnion [] ys = ys := by
  simp [ordUnion]

@[simp] theorem ordUnion_nil_right (xs : List α) : ordUnion xs [] = xs := by
  cases xs <;> simp [ordUnion]

theorem ordUnion_cons_cons (a b : α) (xs ys : List α) :
    ordUnion (a :: xs) (b :: ys) = match compare a b with
      | .lt => a :: ordUnion xs (b :: ys)
      | .gt => b :: ordUnion (a :: xs) ys
      | .eq => a :: ordUnion xs ys := by
  rw [ordUnion]

theorem length_ordUnion_le (xs ys : List α) :
    (ordUnion xs ys).length ≤ xs.length + ys.length := by
  induction xs, ys using ordUnion.induct with
  | case1 ys => simp
  | case2 a xs => simp
  | case3 a xs b ys h ih =>
    rw [ordUnion_cons_cons, h]
    simp only [List.length_cons] at ih ⊢
    omega
  | case4 a xs b ys h ih =>
    rw [ordUnion_cons_cons, h]
    simp only [List.length_cons] at ih ⊢
    omega
  | case5 a xs b ys h ih =>
    rw [ordUnion_cons_cons, h]
    simp only [List.length_cons] at ih ⊢
    omega

theorem mem_of_mem_ordUnion {z : α} {xs ys : List α} (h : z ∈ ordUnion xs ys) :
    z ∈ xs ∨ z ∈ ys := by
  induction xs, ys using ordUnion.induct with
  | case1 ys => exact .inr (by simpa using h)
  | case2 a xs => exact .inl (by simpa using h)
  | case3 a xs b ys hc ih =>
    rw [ordUnion_cons_cons, hc] at h
    rcases List.mem_cons.1 h with rfl | h
    · exact .inl List.mem_cons_self
    · rcases ih h with h | h
      · exact .inl (List.mem_cons_of_mem _ h)
      · exact .inr h
  | case4 a xs b ys hc ih =>
    rw [ordUnion_cons_cons, hc] at h
    rcases List.mem_cons.1 h with rfl | h
    · exact .inr List.mem_cons_self
    · rcases ih h with h | h
      · exact .inl h
      · exact .inr (List.mem_cons_of_mem _ h)
  | case5 a xs b ys hc ih =>
    rw [ordUnion_cons_cons, hc] at h
    rcases List.mem_cons.1 h with rfl | h
    · exact .inl List.mem_cons_self
    · rcases ih h with h | h
      · exact .inl (List.mem_cons_of_mem _ h)
      · exact .inr (List.mem_cons_of_mem _ h)

theorem mem_ordUnion_of_left {x : α} {xs ys : List α} (h : x ∈ xs) : x ∈ ordUnion xs ys := by
  induction xs, ys using ordUnion.induct with
  | case1 ys => cases h
  | case2 a xs => simpa using h
  | case3 a xs b ys hc ih =>
    rw [ordUnion_cons_cons, hc]
    rcases List.mem_cons.1 h with rfl | h
    · exact List.mem_cons_self
    · exact List.mem_cons_of_mem _ (ih h)
  | case4 a xs b ys hc ih =>
    rw [ordUnion_cons_cons, hc]
    exact List.mem_cons_of_mem _ (ih h)
  | case5 a xs b ys hc ih =>
    rw [ordUnion_cons_cons, hc]
    rcases List.mem_cons.1 h with rfl | h
    · exact List.mem_cons_self
    · exact List.mem_cons_of_mem _ (ih h)

theorem mem_ordUnion_of_right (xs : List α) {y : α} {ys : List α} (h : y ∈ ys) :
    y ∈ ordUnion xs ys ∨ ∃ x ∈ xs, compare x y = .eq := by
  induction xs, ys using ordUnion.induct with
  | case1 ys => exact .inl (by simpa using h)
  | case2 a xs => cases h
  | case3 a xs b ys hc ih =>
    rw [ordUnion_cons_cons, hc]
    rcases ih h with h | ⟨x, hx, hxy⟩
    · exact .inl (List.mem_cons_of_mem _ h)
    · exact .inr ⟨x, List.mem_cons_of_mem _ hx, hxy⟩
  | case4 a xs b ys hc ih =>
    rw [ordUnion_cons_cons, hc]
    rcases List.mem_cons.1 h with rfl | h
    · exact .inl List.mem_cons_self
    · rcases ih h with h | h
      · exact .inl (List.mem_cons_of_mem _ h)
      · exact .inr h
  | case5 a xs b ys hc ih =>
    rw [ordUnion_cons_cons, hc]
    rcases List.mem_cons.1 h with rfl | h
    · exact .inr ⟨a, List.mem_cons_self, hc⟩
    · rcases ih h with h | ⟨x, hx, hxy⟩
      · exact .inl (List.mem_cons_of_mem _ h)
      · exact .inr ⟨x, List.mem_cons_of_mem _ hx, hxy⟩

end OrdUnion

/-! ## Ascending instants -/

/-- Zoned times at strictly increasing instants. -/
def Ascending (xs : List ZonedTime) : Prop := xs.Pairwise fun a b => a.instant < b.instant

theorem Instant.eq_of_nanos {a b : Instant} (h : a.nanos = b.nanos) : a = b := by
  cases a
  cases b
  simp_all

theorem ZonedTime.compare_def (a b : ZonedTime) :
    compare a b = compare a.instant.nanos b.instant.nanos := rfl

theorem ZonedTime.compare_eq_eq {a b : ZonedTime} : compare a b = .eq ↔ a.instant = b.instant := by
  rw [ZonedTime.compare_def, Int.compare_eq_eq]
  exact ⟨Instant.eq_of_nanos, fun h => h ▸ rfl⟩

theorem ZonedTime.isLT_compare {a b : ZonedTime} :
    (compare a b).isLT = true ↔ a.instant < b.instant := by
  rw [ZonedTime.compare_def, Ordering.isLT_iff_eq_lt, Int.compare_eq_lt]
  rfl

/-- The union of two ascending lists is ascending. -/
theorem ordUnion_ascending {xs ys : List ZonedTime} (hx : Ascending xs) (hy : Ascending ys) :
    Ascending (ordUnion xs ys) := by
  induction xs, ys using ordUnion.induct with
  | case1 ys => simpa using hy
  | case2 a xs => simpa using hx
  | case3 a xs b ys hc ih =>
    rw [ordUnion_cons_cons, hc]
    rw [ZonedTime.compare_def, Int.compare_eq_lt] at hc
    obtain ⟨hax, hx⟩ := List.pairwise_cons.1 hx
    refine List.pairwise_cons.2 ⟨fun z hz => ?_, ih hx hy⟩
    rcases mem_of_mem_ordUnion hz with hz | hz
    · exact hax z hz
    · rcases List.mem_cons.1 hz with rfl | hz
      · exact hc
      · exact lt_trans (α := Int) hc ((List.pairwise_cons.1 hy).1 z hz)
  | case4 a xs b ys hc ih =>
    rw [ordUnion_cons_cons, hc]
    rw [ZonedTime.compare_def, Int.compare_eq_gt] at hc
    obtain ⟨hby, hy⟩ := List.pairwise_cons.1 hy
    refine List.pairwise_cons.2 ⟨fun z hz => ?_, ih hx hy⟩
    rcases mem_of_mem_ordUnion hz with hz | hz
    · rcases List.mem_cons.1 hz with rfl | hz
      · exact hc
      · exact lt_trans (α := Int) hc ((List.pairwise_cons.1 hx).1 z hz)
    · exact hby z hz
  | case5 a xs b ys hc ih =>
    rw [ordUnion_cons_cons, hc]
    rw [ZonedTime.compare_def, Int.compare_eq_eq] at hc
    obtain ⟨hax, hx⟩ := List.pairwise_cons.1 hx
    obtain ⟨hby, hy⟩ := List.pairwise_cons.1 hy
    refine List.pairwise_cons.2 ⟨fun z hz => ?_, ih hx hy⟩
    rcases mem_of_mem_ordUnion hz with hz | hz
    · exact hax z hz
    · have := hby z hz
      show a.instant.nanos < z.instant.nanos
      rw [hc]
      exact this

/-- The instants of a union are those of either side. -/
theorem exists_mem_ordUnion_iff {xs ys : List ZonedTime} {t : Instant} :
    (∃ z ∈ ordUnion xs ys, z.instant = t) ↔
      (∃ x ∈ xs, x.instant = t) ∨ ∃ y ∈ ys, y.instant = t := by
  constructor
  · rintro ⟨z, hz, rfl⟩
    rcases mem_of_mem_ordUnion hz with hz | hz
    · exact .inl ⟨z, hz, rfl⟩
    · exact .inr ⟨z, hz, rfl⟩
  · rintro (⟨x, hx, rfl⟩ | ⟨y, hy, rfl⟩)
    · exact ⟨x, mem_ordUnion_of_left hx, rfl⟩
    · rcases mem_ordUnion_of_right xs hy with h | ⟨x, hx, hxy⟩
      · exact ⟨y, h, rfl⟩
      · exact ⟨x, mem_ordUnion_of_left hx, ZonedTime.compare_eq_eq.1 hxy⟩

theorem Ascending.eq_of_instant : ∀ {l : List ZonedTime}, Ascending l → ∀ {a b : ZonedTime},
    a ∈ l → b ∈ l → a.instant = b.instant → a = b
  | [], _, _, _, ha, _, _ => absurd ha List.not_mem_nil
  | c :: l, hl, a, b, ha, hb, hab => by
    obtain ⟨hc, htl⟩ := List.pairwise_cons.1 hl
    -- a value after the head lies strictly above it
    rcases List.mem_cons.1 ha with hac | ha'
    · rcases List.mem_cons.1 hb with hbc | hb'
      · rw [hac, hbc]
      · rw [hac] at hab
        exact absurd (congrArg Instant.nanos hab) (Int.ne_of_lt (hc b hb'))
    · rcases List.mem_cons.1 hb with hbc | hb'
      · rw [hbc] at hab
        exact absurd (congrArg Instant.nanos hab.symm) (Int.ne_of_lt (hc a ha'))
      · exact Ascending.eq_of_instant htl ha' hb' hab

theorem Ascending.eq_of_mem_iff : ∀ {l l' : List ZonedTime}, Ascending l → Ascending l' →
    (∀ t, t ∈ l ↔ t ∈ l') → l = l'
  | [], [], _, _, _ => rfl
  | [], b :: _, _, _, h => absurd ((h b).2 List.mem_cons_self) List.not_mem_nil
  | a :: _, [], _, _, h => absurd ((h a).1 List.mem_cons_self) List.not_mem_nil
  | a :: l, b :: l', hl, hl', h => by
    obtain ⟨ha, htl⟩ := List.pairwise_cons.1 hl
    obtain ⟨hb, htl'⟩ := List.pairwise_cons.1 hl'
    -- each head is the least value of both lists
    have hab : a = b := by
      rcases List.mem_cons.1 ((h a).1 List.mem_cons_self) with hab | hab
      · exact hab
      rcases List.mem_cons.1 ((h b).2 List.mem_cons_self) with hba | hba
      · exact hba.symm
      · exact absurd (Int.lt_trans (hb a hab) (ha b hba)) (Int.lt_irrefl _)
    subst hab
    congr 1
    refine Ascending.eq_of_mem_iff htl htl' fun t => ⟨fun ht => ?_, fun ht => ?_⟩
    · rcases List.mem_cons.1 ((h t).1 (List.mem_cons_of_mem _ ht)) with rfl | ht'
      · exact absurd (ha t ht) (Int.lt_irrefl _)
      · exact ht'
    · rcases List.mem_cons.1 ((h t).2 (List.mem_cons_of_mem _ ht)) with rfl | ht'
      · exact absurd (hb t ht) (Int.lt_irrefl _)
      · exact ht'

/-- Some value of `xs` lies at or after `y`. -/
def Covered (xs : List ZonedTime) (y : ZonedTime) : Bool :=
  xs.any fun x => decide (y.instant ≤ x.instant)

theorem filter_covered_cons {a : ZonedTime} {xs ys : List ZonedTime}
    (h : ∀ y ∈ ys, a.instant < y.instant) :
    ys.filter (Covered (a :: xs)) = ys.filter (Covered xs) := by
  apply List.filter_congr
  intro y hy
  have hlt : a.instant.nanos < y.instant.nanos := h y hy
  have hnot : ¬ y.instant ≤ a.instant := fun hle => absurd (show y.instant.nanos ≤ a.instant.nanos from hle) (by omega)
  simp [Covered, hnot]

/-! ## Runs of a union -/

namespace Union

variable {σ τ α : Type} [Ord α] [Source σ α] [Source τ α]

/-- The union of two sources that run to their end runs to its end, giving the union of their
runs. -/
theorem run_ofPeeks {l : Peek σ α} {r : Peek τ α} {xs ys : List α} (hl : l.Run xs none)
    (hr : r.Run ys none) : Source.Run (⟨l, r⟩ : Union σ τ α) (ordUnion xs ys) none := by
  -- each step gives one value of one side or of both, so the sum of the lengths decreases
  induction hn : xs.length + ys.length using Nat.strong_induction_on generalizing l r xs ys with
  | _ n ih =>
    cases xs with
    | nil =>
      cases ys with
      | nil =>
        have hstep : Source.next? (⟨l, r⟩ : Union σ τ α) = .ok none := by
          simp [Source.next?, next?, Peek.force_of_nil hl, Peek.force_of_nil hr]
        simpa using Source.Run.stop hstep
      | cons b ys =>
        obtain ⟨t, ht, htr⟩ := Peek.force_of_cons hr
        have hstep : Source.next? (⟨l, r⟩ : Union σ τ α) =
            .ok (some (b, (⟨.ended, .later t⟩ : Union σ τ α))) := by
          simp [Source.next?, next?, Peek.force_of_nil hl, ht]
        have hrest := ih ys.length (by simp at hn; omega)
          (show (Peek.ended : Peek σ α).Run [] none from ⟨rfl, rfl⟩)
          (show (Peek.later t : Peek τ α).Run ys none from htr) (by simp)
        simpa using Source.Run.give hstep (by simpa using hrest)
    | cons a xs =>
      obtain ⟨s, hs, hsr⟩ := Peek.force_of_cons hl
      cases ys with
      | nil =>
        have hstep : Source.next? (⟨l, r⟩ : Union σ τ α) =
            .ok (some (a, (⟨.later s, .ended⟩ : Union σ τ α))) := by
          simp [Source.next?, next?, hs, Peek.force_of_nil hr]
        have hrest := ih xs.length (by simp at hn; omega)
          (show (Peek.later s : Peek σ α).Run xs none from hsr)
          (show (Peek.ended : Peek τ α).Run [] none from ⟨rfl, rfl⟩) (by simp)
        simpa using Source.Run.give hstep (by simpa using hrest)
      | cons b ys =>
        obtain ⟨t, ht, htr⟩ := Peek.force_of_cons hr
        rw [ordUnion_cons_cons]
        -- the lesser head is given; the other side stays looked at
        cases hc : compare a b with
        | lt =>
          have hstep : Source.next? (⟨l, r⟩ : Union σ τ α) =
              .ok (some (a, (⟨.later s, .ahead b t⟩ : Union σ τ α))) := by
            simp [Source.next?, next?, hs, ht, hc]
          exact Source.Run.give hstep
            (ih _ (by simp at hn ⊢; omega) hsr ⟨ys, rfl, htr⟩ rfl)
        | gt =>
          have hstep : Source.next? (⟨l, r⟩ : Union σ τ α) =
              .ok (some (b, (⟨.ahead a s, .later t⟩ : Union σ τ α))) := by
            simp [Source.next?, next?, hs, ht, hc]
          exact Source.Run.give hstep
            (ih _ (by simp at hn ⊢; omega) ⟨xs, rfl, hsr⟩ htr rfl)
        | eq =>
          have hstep : Source.next? (⟨l, r⟩ : Union σ τ α) =
              .ok (some (a, (⟨.later s, .later t⟩ : Union σ τ α))) := by
            simp [Source.next?, next?, hs, ht, hc]
          exact Source.Run.give hstep (ih _ (by simp at hn ⊢; omega) hsr htr rfl)

theorem next?_eq_some {u u' : Union σ τ α} {a : α} (h : next? u = .ok (some (a, u'))) :
    ∃ l r, u.left.force = .ok l ∧ u.right.force = .ok r ∧
      ((∃ s, l = .ahead a s ∧ u' = ⟨.later s, r⟩) ∨ (∃ t, r = .ahead a t ∧ u' = ⟨l, .later t⟩) ∨
        ∃ s b t, l = .ahead a s ∧ r = .ahead b t ∧ u' = ⟨.later s, .later t⟩) := by
  unfold next? at h
  obtain ⟨l, hl, h⟩ := Except.bind_eq_ok.1 h
  obtain ⟨r, hr, h⟩ := Except.bind_eq_ok.1 h
  refine ⟨l, r, hl, hr, ?_⟩
  split at h
  · split at h <;> cases h
    · exact .inl ⟨_, rfl, rfl⟩
    · exact .inr (.inl ⟨_, rfl, rfl⟩)
    · exact .inr (.inr ⟨_, _, _, rfl, rfl, rfl⟩)
  · cases h
    exact .inl ⟨_, rfl, rfl⟩
  · cases h
    exact .inr (.inl ⟨_, rfl, rfl⟩)
  · cases h

theorem next?_eq_none {u : Union σ τ α} (h : next? u = .ok none) :
    u.left.force = .ok .ended ∧ u.right.force = .ok .ended := by
  unfold next? at h
  obtain ⟨l, hl, h⟩ := Except.bind_eq_ok.1 h
  obtain ⟨r, hr, h⟩ := Except.bind_eq_ok.1 h
  -- a side looked at is ahead or ended; a side ahead gives a value
  cases l with
  | later s => exact absurd rfl (Peek.force_ne_later hl s)
  | ahead a s =>
    cases r with
    | later t => exact absurd rfl (Peek.force_ne_later hr t)
    | ahead b t => cases hc : compare a b <;> simp [hc] at h
    | ended => cases h
  | ended =>
    cases r with
    | later t => exact absurd rfl (Peek.force_ne_later hr t)
    | ahead b t => cases h
    | ended => exact ⟨hl, hr⟩

theorem exists_runs {u : Union σ τ α} {zs : List α} {e : Option CalendarError}
    (h : Source.Run u zs e) (he : e = none) :
    ∃ xs ys, u.left.Run xs none ∧ u.right.Run ys none := by
  induction h with
  | stop hs =>
    obtain ⟨hl, hr⟩ := next?_eq_none hs
    exact ⟨[], [], Peek.run_of_force hl ⟨rfl, rfl⟩, Peek.run_of_force hr ⟨rfl, rfl⟩⟩
  | fail _ => cases he
  | give hs _ ih =>
    obtain ⟨xs, ys, hxs, hys⟩ := ih he
    obtain ⟨l, r, hl, hr, hcase⟩ := next?_eq_some hs
    -- the side a value came from ran to that value before the rest
    rcases hcase with ⟨s, rfl, rfl⟩ | ⟨t, rfl, rfl⟩ | ⟨s, b, t, rfl, rfl, rfl⟩
    · exact ⟨_, ys, Peek.run_of_force hl ⟨xs, rfl, hxs⟩, Peek.run_of_force hr hys⟩
    · exact ⟨xs, _, Peek.run_of_force hl hxs, Peek.run_of_force hr ⟨ys, rfl, hys⟩⟩
    · exact ⟨_, _, Peek.run_of_force hl ⟨xs, rfl, hxs⟩, Peek.run_of_force hr ⟨ys, rfl, hys⟩⟩

/-- The union of two bounded sources is bounded by the sum of their bounds. -/
theorem bounded {I : σ → Prop} {J : τ → Prop} (hI : Source.Bounded I)
    (hJ : Source.Bounded J) :
    Source.Bounded (σ := Union σ τ α) fun u => u.left.Holds I ∧ u.right.Holds J := by
  refine ⟨fun {u _ _} hu hs => ?_, fun {u zs} hu h => ?_⟩
  · obtain ⟨l, r, hl, hr, hcase⟩ := next?_eq_some hs
    have hl' := hu.1.force hI hl
    have hr' := hu.2.force hJ hr
    rcases hcase with ⟨s, rfl, rfl⟩ | ⟨t, rfl, rfl⟩ | ⟨s, b, t, rfl, rfl, rfl⟩
    · exact ⟨hl', hr'⟩
    · exact ⟨hl', hr'⟩
    · exact ⟨hl', hr'⟩
  · obtain ⟨xs, ys, hxs, hys⟩ := exists_runs h rfl
    obtain ⟨rfl, -⟩ := h.unique (run_ofPeeks hxs hys)
    calc (ordUnion xs ys).length ≤ xs.length + ys.length := length_ordUnion_le xs ys
      _ ≤ u.left.remaining + u.right.remaining :=
        Nat.add_le_add (hu.1.fits hI hxs) (hu.2.fits hJ hys)

theorem length_run_le {u : Union σ τ α} {xs ys zs : List α} {r₁ r₂ r : Option CalendarError}
    (hl : u.left.Run xs r₁) (hr : u.right.Run ys r₂) (h : Source.Run u zs r) :
    zs.length ≤ xs.length + ys.length := by
  induction h generalizing xs ys with
  | stop _ => exact Nat.zero_le _
  | fail _ => exact Nat.zero_le _
  | give hs _ ih =>
    obtain ⟨l, q, hlf, hrf, hcase⟩ := next?_eq_some hs
    have hl' := hl.force hlf
    have hr' := hr.force hrf
    -- each value given is the head of one side, or of both
    rcases hcase with ⟨s, rfl, rfl⟩ | ⟨t, rfl, rfl⟩ | ⟨s, b, t, rfl, rfl, rfl⟩
    · obtain ⟨xs', rfl, hs'⟩ := hl'
      have := ih hs' hr'
      simp only [List.length_cons]
      omega
    · obtain ⟨ys', rfl, ht'⟩ := hr'
      have := ih hl' ht'
      simp only [List.length_cons]
      omega
    · obtain ⟨xs', rfl, hs'⟩ := hl'
      obtain ⟨ys', rfl, ht'⟩ := hr'
      have := ih hs' ht'
      simp only [List.length_cons]
      omega

theorem fits {I : σ → Prop} {J : τ → Prop} (hI : Source.Fits I) (hJ : Source.Fits J)
    (hsI : ∀ s, I s → Source.Stops s) (hsJ : ∀ t, J t → Source.Stops t) :
    Source.Fits (σ := Union σ τ α) fun u => u.left.Holds I ∧ u.right.Holds J := by
  intro u zs r hu h
  obtain ⟨xs, r₁, hxs⟩ := hu.1.stops hsI
  obtain ⟨ys, r₂, hys⟩ := hu.2.stops hsJ
  calc zs.length ≤ xs.length + ys.length := length_run_le hxs hys h
    _ ≤ u.left.remaining + u.right.remaining :=
      Nat.add_le_add (hu.1.fits_of hI hxs) (hu.2.fits_of hJ hys)

end Union

/-! ## A union whose left side fails -/

namespace Union

variable {σ τ : Type} [Source σ ZonedTime] [Source τ ZonedTime]

theorem run_ofPeeks_fail {l : Peek σ ZonedTime} {r : Peek τ ZonedTime} {xs ys : List ZonedTime}
    {e : CalendarError} (hl : l.Run xs (some e)) (hr : r.Run ys none) (hx : Ascending xs)
    (hy : Ascending ys) :
    Source.Run (⟨l, r⟩ : Union σ τ ZonedTime) (ordUnion xs (ys.filter (Covered xs))) (some e) := by
  -- each step gives one value of one side or of both, so the sum of the lengths decreases
  induction hn : xs.length + ys.length using Nat.strong_induction_on generalizing l r xs ys with
  | _ n ih =>
    cases xs with
    | nil =>
      have hstep : Source.next? (⟨l, r⟩ : Union σ τ ZonedTime) = .error e := by
        simp [Source.next?, next?, Peek.force_of_fail hl]
      rw [List.filter_eq_nil_iff.2 fun y _ => by simp [Covered], ordUnion_nil_left]
      exact Source.Run.fail hstep
    | cons a xs =>
      obtain ⟨s, hs, hsr⟩ := Peek.force_of_cons hl
      obtain ⟨ha, hx'⟩ := List.pairwise_cons.1 hx
      cases ys with
      | nil =>
        have hstep : Source.next? (⟨l, r⟩ : Union σ τ ZonedTime) =
            .ok (some (a, (⟨.later s, .ended⟩ : Union σ τ ZonedTime))) := by
          simp [Source.next?, next?, hs, Peek.force_of_nil hr]
        have hrest := ih xs.length (by simp at hn; omega)
          (show (Peek.later s : Peek σ ZonedTime).Run xs (some e) from hsr)
          (show (Peek.ended : Peek τ ZonedTime).Run [] none from ⟨rfl, rfl⟩) hx' List.Pairwise.nil
          (by simp)
        simpa using Source.Run.give hstep (by simpa using hrest)
      | cons b ys =>
        obtain ⟨t, ht, htr⟩ := Peek.force_of_cons hr
        obtain ⟨hb, hy'⟩ := List.pairwise_cons.1 hy
        -- the lesser head is given; the other side stays looked at
        cases hc : compare a b with
        | lt =>
          have hstep : Source.next? (⟨l, r⟩ : Union σ τ ZonedTime) =
              .ok (some (a, (⟨.later s, .ahead b t⟩ : Union σ τ ZonedTime))) := by
            simp [Source.next?, next?, hs, ht, hc]
          have hab : a.instant < b.instant := ZonedTime.isLT_compare.1 (by simp [hc])
          -- no value of `ys` lies at or below `a`, so `a` does not change what is covered
          have habove : ∀ y ∈ b :: ys, a.instant < y.instant := by
            intro y hy''
            rcases List.mem_cons.1 hy'' with rfl | hy''
            · exact hab
            · exact Int.lt_trans hab (hb y hy'')
          have hrest := ih _ (by simp at hn ⊢; omega)
            (show (Peek.later s : Peek σ ZonedTime).Run xs (some e) from hsr)
            (show (Peek.ahead b t : Peek τ ZonedTime).Run (b :: ys) none from ⟨ys, rfl, htr⟩)
            hx' hy rfl
          rw [filter_covered_cons habove]
          cases hf : (b :: ys).filter (Covered xs) with
          | nil =>
            rw [hf] at hrest
            simpa using Source.Run.give hstep hrest
          | cons f fs =>
            have hf' : f ∈ b :: ys := List.mem_of_mem_filter (hf ▸ List.mem_cons_self)
            rw [ordUnion_cons_cons, Ordering.isLT_iff_eq_lt.1
              (ZonedTime.isLT_compare.2 (habove f hf'))]
            rw [hf] at hrest
            exact Source.Run.give hstep hrest
        | gt =>
          have hstep : Source.next? (⟨l, r⟩ : Union σ τ ZonedTime) =
              .ok (some (b, (⟨.ahead a s, .later t⟩ : Union σ τ ZonedTime))) := by
            simp [Source.next?, next?, hs, ht, hc]
          -- `b` lies below `a`, so `a` covers it
          have hba : b.instant < a.instant := by
            rw [ZonedTime.compare_def, Int.compare_eq_gt] at hc
            exact hc
          have hcov : Covered (a :: xs) b = true := by
            simp only [Covered, List.any_cons, Bool.or_eq_true, decide_eq_true_eq]
            exact .inl (Int.le_of_lt hba)
          have hrest := ih _ (by simp at hn ⊢; omega)
            (show (Peek.ahead a s : Peek σ ZonedTime).Run (a :: xs) (some e) from ⟨xs, rfl, hsr⟩)
            (show (Peek.later t : Peek τ ZonedTime).Run ys none from htr) hx hy' rfl
          rw [List.filter_cons_of_pos hcov, ordUnion_cons_cons, hc]
          exact Source.Run.give hstep hrest
        | eq =>
          have hstep : Source.next? (⟨l, r⟩ : Union σ τ ZonedTime) =
              .ok (some (a, (⟨.later s, .later t⟩ : Union σ τ ZonedTime))) := by
            simp [Source.next?, next?, hs, ht, hc]
          -- `b` is at `a`, and the rest of `ys` lies above it
          have hab : a.instant = b.instant := ZonedTime.compare_eq_eq.1 hc
          have hcov : Covered (a :: xs) b = true := by
            simp only [Covered, List.any_cons, Bool.or_eq_true, decide_eq_true_eq]
            exact .inl (show b.instant.nanos ≤ a.instant.nanos by rw [hab])
          have habove : ∀ y ∈ ys, a.instant < y.instant := fun y hy'' => hab ▸ hb y hy''
          have hrest := ih _ (by simp at hn ⊢; omega)
            (show (Peek.later s : Peek σ ZonedTime).Run xs (some e) from hsr)
            (show (Peek.later t : Peek τ ZonedTime).Run ys none from htr) hx' hy' rfl
          rw [List.filter_cons_of_pos hcov, filter_covered_cons habove, ordUnion_cons_cons, hc]
          exact Source.Run.give hstep hrest

end Union

end Cadence
