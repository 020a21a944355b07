import Cadence.Proofs.Stream.Union
/-!
# The difference of two sources

The difference of two sources pulls a value from its base, moves the excluded side past the
values below it and drops the value when the next excluded one equals it; after
`maxConsecutiveExclusions` values dropped in a row it ends. Run on lists this is `guardedDiff`:
a difference whose sides run to their ends runs to `guardedDiff` of their runs
(`Difference.run`), with the fuel its loops take from `remaining` always enough when the sides are
bounded.

For ascending zoned times, `guardedDiff` gives the values of the base at no instant of the
excluded side, up to a point: either all of them, or those before a stretch of
`maxConsecutiveExclusions` excluded values (`guardedDiff_spec`). With no such stretch it is the
whole filter (`guardedDiff_of_guarded`).
-/
namespace Cadence

section GuardedDiff

variable {α : Type} [Ord α]

/-- The values of `xs` not excluded by `ys`, as a difference gives them: the `M`-th value dropped
in a row ends the list, and `budget` counts the drops in a row still allowed. -/
def guardedDiff (M : Nat) : Nat → List α → List α → List α
  | 0, _, _ => []
  | _ + 1, [], _ => []
  | budget + 1, c :: xs, ys =>
    let rest := ys.dropWhile fun y => (compare y c).isLT
    if rest.head?.map (compare · c) = some .eq then
      if budget = 0 then [] else guardedDiff M budget xs rest
    else c :: guardedDiff M M xs rest
termination_by _ xs => xs.length

theorem guardedDiff_sublist (M : Nat) :
    ∀ (b : Nat) (xs ys : List α), (guardedDiff M b xs ys).Sublist xs
  | 0, xs, ys => by simp [guardedDiff]
  | _ + 1, [], ys => by simp [guardedDiff]
  | b + 1, c :: xs, ys => by
    rw [guardedDiff]
    split
    · split
      · exact List.nil_sublist _
      · exact (guardedDiff_sublist M b xs _).cons c
    · exact (guardedDiff_sublist M M xs _).cons_cons c
termination_by _ xs => xs.length

end GuardedDiff

namespace Difference

variable {σ τ α : Type} [Ord α] [Source σ α] [Source τ α] {J : τ → Prop}

theorem mem_dropWhile_of_not_lt {c y : α} {ys : List α} (hy : y ∈ ys)
    (hyc : (compare y c).isLT = false) : y ∈ ys.dropWhile fun y => (compare y c).isLT := by
  have hsplit : y ∈ ys.takeWhile (fun y => (compare y c).isLT) ++
      ys.dropWhile (fun y => (compare y c).isLT) := by
    rwa [List.takeWhile_append_dropWhile]
  rcases List.mem_append.1 hsplit with h | h
  · have := List.mem_takeWhile_imp (p := fun y => (compare y c).isLT) h
    simp [hyc] at this
  · exact h

theorem passBelow_run (hJ : Source.Bounded J) (c : α) : ∀ {ys : List α} {fuel : Nat}
    {e : Peek τ α} {r : Option CalendarError}, e.Run ys r →
    (r = none ∨ ∃ y ∈ ys, (compare y c).isLT = false) → e.Holds J →
    (ys.takeWhile fun y => (compare y c).isLT).length < fuel →
    ∃ e', passBelow c fuel e =
        .ok (e', (ys.dropWhile fun y => (compare y c).isLT).head?.map (compare · c)) ∧
      e'.Run (ys.dropWhile fun y => (compare y c).isLT) r ∧ e'.Holds J
  | _, 0, _, _, _, _, _, hfuel => absurd hfuel (Nat.not_lt_zero _)
  | [], fuel + 1, e, r, he, hr, hJe, _ => by
    obtain rfl : r = none := hr.resolve_right fun ⟨_, hy, _⟩ => List.not_mem_nil hy
    refine ⟨.ended, ?_, ⟨rfl, rfl⟩, trivial⟩
    simp [passBelow, Peek.force_of_nil he]
  | y :: ys, fuel + 1, e, r, he, hr, hJe, hfuel => by
    obtain ⟨s, hs, hrun⟩ := Peek.force_of_cons he
    have hJs : J s := hJe.force hJ hs
    by_cases hlt : (compare y c).isLT = true
    · -- a value below `c` is passed, and the rest is moved past with one value less of fuel
      rw [List.takeWhile_cons_of_pos (p := fun y => (compare y c).isLT) hlt,
        List.length_cons] at hfuel
      rw [List.dropWhile_cons_of_pos (p := fun y => (compare y c).isLT) hlt]
      have hr' : r = none ∨ ∃ y' ∈ ys, (compare y' c).isLT = false := by
        refine hr.imp_right fun ⟨y', hy', hyc⟩ => ⟨y', ?_, hyc⟩
        rcases List.mem_cons.1 hy' with rfl | hy'
        · simp [hlt] at hyc
        · exact hy'
      obtain ⟨e', hpass, hrun', hJe'⟩ := passBelow_run hJ c (e := .later s) hrun hr' hJs
        (show (ys.takeWhile fun y => (compare y c).isLT).length < fuel by omega)
      refine ⟨e', ?_, hrun', hJe'⟩
      rw [← hpass]
      cases hc : compare y c <;> simp_all [passBelow]
    · rw [List.dropWhile_cons_of_neg (p := fun y => (compare y c).isLT) hlt]
      refine ⟨.ahead y s, ?_, ⟨ys, rfl, hrun⟩, hJs⟩
      cases hc : compare y c <;> simp_all [passBelow]

variable {I : σ → Prop}

/-- A difference whose base runs to its end, to `xs`, and whose excluded side runs to `ys` and
ends, or fails only after a value at or above every value of the base; both keep their bounds. -/
structure Runs (I : σ → Prop) (J : τ → Prop) (d : Difference σ τ α) (xs ys : List α) :
    Prop where
  base : Source.Run d.base xs none
  excluded : ∃ r, d.excluded.Run ys r ∧ (r = none ∨ ∃ y ∈ ys, ∀ c ∈ xs, (compare y c).isLT = false)
  base_holds : I d.base
  excluded_holds : d.excluded.Holds J

theorem nextWithin_run (hI : Source.Bounded I) (hJ : Source.Bounded J) (hF : Source.Fits J)
    (M : Nat) : ∀ {xs ys : List α} {b : Nat} {d : Difference σ τ α}, Runs I J d xs ys →
      (nextWithin d b = .ok none ∧ guardedDiff M b xs ys = []) ∨
      ∃ c d' xs' ys', nextWithin d b = .ok (some (c, d')) ∧ Runs I J d' xs' ys' ∧
        xs'.length < xs.length ∧ guardedDiff M b xs ys = c :: guardedDiff M M xs' ys'
  | _, _, 0, _, _ => .inl ⟨rfl, by simp [guardedDiff]⟩
  | [], _, b + 1, _, h => .inl ⟨by simp [nextWithin, h.base.nil_inv], by simp [guardedDiff]⟩
  | c :: xs, ys, b + 1, d, h => by
    obtain ⟨i, hs, hrest⟩ := h.base.cons_inv
    have hIi := hI.step h.base_holds hs
    obtain ⟨r, hexc, hr⟩ := h.excluded
    -- the excluded side holds no more values than it bounds, so its fuel is enough
    have hfit := h.excluded_holds.fits_of hF hexc
    have htake := (List.takeWhile_prefix (p := fun y => (compare y c).isLT) (l := ys)).length_le
    obtain ⟨e', hpass, hrun', hJe'⟩ := passBelow_run hJ c hexc
      (hr.imp_right fun ⟨y, hy, hyc⟩ => ⟨y, hy, hyc c List.mem_cons_self⟩) h.excluded_holds
      (show _ < d.excluded.remaining + 1 by omega)
    -- a value above the whole base stays past `c`, above the rest of the base
    have hr' : r = none ∨ ∃ y ∈ ys.dropWhile (fun y => (compare y c).isLT),
        ∀ c' ∈ xs, (compare y c').isLT = false :=
      hr.imp_right fun ⟨y, hy, hyc⟩ => ⟨y, mem_dropWhile_of_not_lt hy
        (hyc c List.mem_cons_self), fun c' hc' => hyc c' (List.mem_cons_of_mem c hc')⟩
    have hruns : Runs I J ⟨i, e'⟩ xs _ := ⟨hrest, ⟨r, hrun', hr'⟩, hIi, hJe'⟩
    rw [guardedDiff]
    by_cases ho : (ys.dropWhile fun y => (compare y c).isLT).head?.map (compare · c) = some .eq
    · by_cases hb : b = 0
      · exact .inl ⟨by simp [nextWithin, hs, hpass, ho, hb], by simp [ho, hb]⟩
      · rcases nextWithin_run hI hJ hF M (b := b) hruns with ⟨hnone, hnil⟩ |
          ⟨c', d', xs', ys', hsome, hruns', hlen, hcons⟩
        · exact .inl ⟨by simp [nextWithin, hs, hpass, ho, hb, hnone], by simp [ho, hb, hnil]⟩
        · refine .inr ⟨c', d', xs', ys', ?_, hruns', by simp; omega, by simp [ho, hb, hcons]⟩
          simp [nextWithin, hs, hpass, ho, hb, hsome]
    · refine .inr ⟨c, ⟨i, e'⟩, xs, _, ?_, hruns, by simp, by simp [ho]⟩
      simp [nextWithin, hs, hpass, ho]

theorem next?_eq (d : Difference σ τ α) :
    Source.next? d = d.nextWithin maxConsecutiveExclusions := rfl

section Bounds

variable (hI : Source.Bounded I) (hJ : Source.Bounded J) (hF : Source.Fits J)
include hI hJ hF

/-- A difference whose sides run as `Runs` says runs to `guardedDiff` of their runs. -/
theorem run {d : Difference σ τ α} {xs ys : List α} (h : Runs I J d xs ys) :
    Source.Run d (guardedDiff maxConsecutiveExclusions maxConsecutiveExclusions xs ys) none := by
  -- each value given leaves a base that runs to fewer values
  induction hn : xs.length using Nat.strong_induction_on generalizing d xs ys with
  | _ n ih =>
    rcases nextWithin_run hI hJ hF maxConsecutiveExclusions (b := maxConsecutiveExclusions) h
      with ⟨hnone, hnil⟩ | ⟨c, d', xs', ys', hsome, hruns', hlen, hcons⟩
    · rw [hnil]
      exact .stop hnone
    · rw [hcons]
      exact .give hsome (ih _ (by omega) hruns' rfl)

theorem bounded : Source.Bounded (σ := Difference σ τ α) fun d => ∃ xs ys, Runs I J d xs ys := by
  refine ⟨fun {d _ _} ⟨xs, ys, h⟩ hs => ?_, fun {d _} ⟨xs, ys, h⟩ hz => ?_⟩
  · rw [next?_eq] at hs
    rcases nextWithin_run hI hJ hF maxConsecutiveExclusions (b := maxConsecutiveExclusions) h
      with ⟨hnone, -⟩ | ⟨c, d', xs', ys', hsome, hruns', -, -⟩
    · rw [hnone] at hs
      cases hs
    · rw [hsome] at hs
      cases hs
      exact ⟨xs', ys', hruns'⟩
  · obtain ⟨rfl, -⟩ := hz.unique (run hI hJ hF h)
    exact (guardedDiff_sublist _ _ _ _).length_le.trans (hI.fits h.base_holds h.base)

end Bounds

end Difference

/-! ## Differences of ascending zoned times -/

/-- Some value of `ys` lies at the instant of `c`. -/
def Excludes (ys : List ZonedTime) (c : ZonedTime) : Prop := ∃ y ∈ ys, y.instant = c.instant

instance (ys : List ZonedTime) (c : ZonedTime) : Decidable (Excludes ys c) :=
  inferInstanceAs (Decidable (∃ y ∈ ys, y.instant = c.instant))

theorem Ascending.sublist {xs ys : List ZonedTime} (h : Ascending ys) (hs : xs.Sublist ys) :
    Ascending xs :=
  List.Pairwise.sublist hs h

section Below

variable {ys : List ZonedTime} {c : ZonedTime}

theorem excludes_dropWhile_below {c' : ZonedTime} (hc : c.instant ≤ c'.instant) :
    Excludes (ys.dropWhile fun y => (compare y c).isLT) c' ↔ Excludes ys c' := by
  constructor
  · rintro ⟨y, hy, hyc⟩
    exact ⟨y, (List.dropWhile_suffix _).subset hy, hyc⟩
  · rintro ⟨y, hy, hyc⟩
    have hsplit : y ∈ ys.takeWhile (fun y => (compare y c).isLT) ++
        ys.dropWhile (fun y => (compare y c).isLT) := by
      rwa [List.takeWhile_append_dropWhile]
    rcases List.mem_append.1 hsplit with hy | hy
    · -- a value moved past lies below `c`, hence below `c'`
      have hlt := ZonedTime.isLT_compare.1 (List.mem_takeWhile_imp (p := fun y => (compare y c).isLT) hy)
      rw [hyc] at hlt
      exact absurd hc (Int.not_le.2 hlt)
    · exact ⟨y, hy, hyc⟩

theorem head_dropWhile_below (hys : Ascending ys) :
    (ys.dropWhile fun y => (compare y c).isLT).head?.map (compare · c) = some .eq ↔
      Excludes ys c := by
  induction ys with
  | nil => simp [Excludes]
  | cons y ys ih =>
    obtain ⟨hy, hys⟩ := List.pairwise_cons.1 hys
    by_cases hlt : (compare y c).isLT = true
    · -- `y` lies below `c`, so it neither stays nor equals `c`
      rw [List.dropWhile_cons_of_pos (p := fun y => (compare y c).isLT) hlt, ih hys]
      have hyc := ZonedTime.isLT_compare.1 hlt
      constructor
      · rintro ⟨u, hu, huc⟩
        exact ⟨u, List.mem_cons_of_mem _ hu, huc⟩
      · rintro ⟨u, hu, huc⟩
        rcases List.mem_cons.1 hu with rfl | hu
        · exact absurd (congrArg Instant.nanos huc) (Int.ne_of_lt hyc)
        · exact ⟨u, hu, huc⟩
    · -- `y` stays in front; a later value of the side lies above `y`, so only `y` can equal `c`
      rw [List.dropWhile_cons_of_neg (p := fun y => (compare y c).isLT) hlt]
      simp only [List.head?_cons, Option.map_some, Option.some.injEq, ZonedTime.compare_eq_eq]
      constructor
      · intro hyc
        exact ⟨y, List.mem_cons_self, hyc⟩
      · rintro ⟨u, hu, huc⟩
        rcases List.mem_cons.1 hu with rfl | hu
        · exact huc
        · have hyu := hy u hu
          rw [huc] at hyu
          exact absurd (ZonedTime.isLT_compare.2 hyu) hlt

theorem Ascending.dropWhile_below (hys : Ascending ys) :
    Ascending (ys.dropWhile fun y => (compare y c).isLT) :=
  hys.sublist (List.dropWhile_suffix _).sublist

end Below

/-! ### Up to a bound -/

theorem guardedDiff_congr (M : Nat) : ∀ {b : Nat} {xs ys ys' : List ZonedTime}, Ascending xs →
    Ascending ys → Ascending ys' → (∀ c ∈ xs, Excludes ys c ↔ Excludes ys' c) →
    guardedDiff M b xs ys = guardedDiff M b xs ys'
  | 0, _, _, _, _, _, _, _ => by simp [guardedDiff]
  | b + 1, [], _, _, _, _, _, _ => by simp [guardedDiff]
  | b + 1, c :: xs, ys, ys', hx, hy, hy', hex => by
    obtain ⟨hcx, hx⟩ := List.pairwise_cons.1 hx
    have hhead : (ys.dropWhile fun y => (compare y c).isLT).head?.map (compare · c) = some .eq ↔
        (ys'.dropWhile fun y => (compare y c).isLT).head?.map (compare · c) = some .eq := by
      rw [head_dropWhile_below hy, head_dropWhile_below hy']
      exact hex c List.mem_cons_self
    -- moved past `c`, both sides still exclude the same later values of the base
    have hex' : ∀ c' ∈ xs, Excludes (ys.dropWhile fun y => (compare y c).isLT) c' ↔
        Excludes (ys'.dropWhile fun y => (compare y c).isLT) c' := fun c' hc' => by
      rw [excludes_dropWhile_below (Int.le_of_lt (hcx c' hc')),
        excludes_dropWhile_below (Int.le_of_lt (hcx c' hc'))]
      exact hex c' (List.mem_cons_of_mem c hc')
    have ih := guardedDiff_congr M (b := b) hx hy.dropWhile_below hy'.dropWhile_below hex'
    have ihM := guardedDiff_congr M (b := M) hx hy.dropWhile_below hy'.dropWhile_below hex'
    rw [guardedDiff, guardedDiff]
    by_cases ho : (ys.dropWhile fun y => (compare y c).isLT).head?.map (compare · c) = some .eq
    · simp only [ho, hhead.1 ho, if_true, ih]
    · simp only [ho, mt hhead.2 ho, if_false, ihM]

theorem filter_take_congr {xs ys ys' : List ZonedTime}
    (h : ∀ c ∈ xs, Excludes ys' c ↔ Excludes ys c) (k : Nat) :
    (xs.take k).filter (fun c => ¬ Excludes ys' c) = (xs.take k).filter (fun c => ¬ Excludes ys c) :=
  List.filter_congr fun c hc => by simp [h c (List.mem_of_mem_take hc)]

/-- The first `M` values of `xs` all lie at instants of `ys`: a stretch of excluded values at
which a difference gives up. -/
structure Stretch (M : Nat) (xs ys : List ZonedTime) : Prop where
  length_ge : M ≤ xs.length
  excluded : ∀ c ∈ xs.take M, Excludes ys c

theorem Stretch.cons {M : Nat} {c : ZonedTime} {xs ys : List ZonedTime} (hc : Excludes ys c)
    (h : Stretch M xs ys) : Stretch (M + 1) (c :: xs) ys := by
  refine ⟨by simpa using h.length_ge, fun c' hc' => ?_⟩
  rw [List.take_succ_cons] at hc'
  rcases List.mem_cons.1 hc' with rfl | hc'
  · exact hc
  · exact h.excluded c' hc'

theorem Stretch.congr {M : Nat} {xs ys ys' : List ZonedTime}
    (h : ∀ c ∈ xs, Excludes ys' c ↔ Excludes ys c) (hs : Stretch M xs ys') : Stretch M xs ys :=
  ⟨hs.length_ge, fun c hc => (h c (List.mem_of_mem_take hc)).1 (hs.excluded c hc)⟩

/-- Up to the `k`-th value, the difference of ascending zoned times keeps the base's values at no
excluded instant: all of them, or those before a stretch of excluded values. -/
theorem guardedDiff_spec (M : Nat) : ∀ {b : Nat} {xs ys : List ZonedTime}, Ascending xs →
    Ascending ys →
    ∃ k ≤ xs.length, guardedDiff M b xs ys = (xs.take k).filter (fun c => ¬ Excludes ys c) ∧
      (k < xs.length → (k = 0 ∧ Stretch b xs ys) ∨ Stretch M (xs.drop k) ys)
  | 0, xs, ys, _, _ =>
    ⟨0, Nat.zero_le _, by simp [guardedDiff], fun _ => .inl ⟨rfl, Nat.zero_le _, by simp⟩⟩
  | _ + 1, [], ys, _, _ => ⟨0, le_rfl, by simp [guardedDiff], fun h => absurd h (by simp)⟩
  | b + 1, c :: xs, ys, hx, hy => by
    obtain ⟨hcx, hx⟩ := List.pairwise_cons.1 hx
    -- the excluded side moved past the values below `c` excludes the same later values
    have hconv : ∀ c' ∈ xs, Excludes (ys.dropWhile fun y => (compare y c).isLT) c' ↔
        Excludes ys c' := fun c' hc' => excludes_dropWhile_below (Int.le_of_lt (hcx c' hc'))
    have hconv' : ∀ k, ∀ c' ∈ xs.drop k, Excludes (ys.dropWhile fun y => (compare y c).isLT) c' ↔
        Excludes ys c' := fun k c' hc' => hconv c' (List.mem_of_mem_drop hc')
    rw [guardedDiff]
    by_cases ho : (ys.dropWhile fun y => (compare y c).isLT).head?.map (compare · c) = some .eq
    · have hex : Excludes ys c := (head_dropWhile_below hy).1 ho
      by_cases hb : b = 0
      · subst hb
        exact ⟨0, Nat.zero_le _, by simp [ho], fun _ => .inl ⟨rfl, by simp, by simpa using hex⟩⟩
      obtain ⟨k, hk, hrun, hcond⟩ := guardedDiff_spec M (b := b) hx hy.dropWhile_below
      -- the value dropped here joins the stretch the rest stopped at, if it stopped at once
      have hkeep : guardedDiff M b xs (ys.dropWhile fun y => (compare y c).isLT) =
          ((c :: xs).take (k + 1)).filter (fun c => ¬ Excludes ys c) := by
        rw [hrun, filter_take_congr hconv, List.take_succ_cons, List.filter_cons]
        simp [hex]
      by_cases hlt : k < xs.length
      · rcases hcond hlt with ⟨rfl, hs⟩ | hs
        · exact ⟨0, Nat.zero_le _, by simp [ho, hb, hrun],
            fun _ => .inl ⟨rfl, (hs.congr hconv).cons hex⟩⟩
        · refine ⟨k + 1, by simpa using hk, by simp [ho, hb, hkeep], fun _ => .inr ?_⟩
          rw [List.drop_succ_cons]
          exact hs.congr (hconv' k)
      · refine ⟨k + 1, by simpa using hk, by simp [ho, hb, hkeep], fun hk' => ?_⟩
        simp only [List.length_cons] at hk'
        omega
    · have hex : ¬ Excludes ys c := fun h => ho ((head_dropWhile_below hy).2 h)
      obtain ⟨k, hk, hrun, hcond⟩ := guardedDiff_spec M (b := M) hx hy.dropWhile_below
      refine ⟨k + 1, by simpa using hk, ?_, fun hk' => .inr ?_⟩
      · rw [if_neg ho, hrun, filter_take_congr hconv, List.take_succ_cons, List.filter_cons]
        simp [hex]
      · -- the value kept here starts nothing; the stretch the rest stopped at is the stretch
        rw [List.drop_succ_cons]
        rcases hcond (by simpa using hk') with ⟨rfl, hs⟩ | hs
        · rw [List.drop_zero]
          exact hs.congr hconv
        · exact hs.congr (hconv' k)

theorem guardedDiff_self_spec (M : Nat) {xs ys : List ZonedTime} (hx : Ascending xs)
    (hy : Ascending ys) :
    ∃ k ≤ xs.length, guardedDiff M M xs ys = (xs.take k).filter (fun c => ¬ Excludes ys c) ∧
      (k < xs.length → Stretch M (xs.drop k) ys) := by
  obtain ⟨k, hk, hrun, hcond⟩ := guardedDiff_spec M (b := M) hx hy
  refine ⟨k, hk, hrun, fun hlt => ?_⟩
  rcases hcond hlt with ⟨rfl, hs⟩ | hs
  · simpa using hs
  · exact hs

/-- No stretch of `M` excluded values starts anywhere in `xs`. -/
def Guarded (M : Nat) (xs ys : List ZonedTime) : Prop := ∀ k, ¬ Stretch M (xs.drop k) ys

theorem Guarded.mono {M : Nat} {xs ys ys' : List ZonedTime}
    (h : ∀ c, Excludes ys c → Excludes ys' c) (hg : Guarded M xs ys') : Guarded M xs ys :=
  fun k hs => hg k ⟨hs.length_ge, fun c hc => h c (hs.excluded c hc)⟩

/-- Without a stretch of excluded values long enough to give up on, the difference of ascending
zoned times keeps exactly the base's values at no excluded instant. -/
theorem guardedDiff_of_guarded {M : Nat} {xs ys : List ZonedTime} (hx : Ascending xs)
    (hy : Ascending ys) (hg : Guarded M xs ys) :
    guardedDiff M M xs ys = xs.filter fun c => ¬ Excludes ys c := by
  obtain ⟨k, hk, hrun, hstop⟩ := guardedDiff_self_spec M hx hy
  rcases Nat.lt_or_ge k xs.length with hlt | hge
  · exact absurd (hstop hlt) (hg k)
  · rw [hrun, List.take_of_length_le hge]

end Cadence
