import Cadence.Proofs.Stream.Difference
/-!
# The difference of two non-decreasing lists

A difference moves its excluded side forward only past the values below the value pulled, and
leaves an equal value in place. On lists of a linear order that are both non-decreasing this
lazy cursor answers exactly whether the value pulled is in the excluded list: the values it has
passed lie below every value still to be pulled (`guardedDiff_eq_cutExcluded`). What is left is
a count of the values excluded in a row. The difference keeps the values of its base that are
not excluded, in order, and stops just before the first run of `maxConsecutiveExclusions`
excluded values (`cutExcluded_spec`). On any lists it keeps a subsequence of its base
(`Difference.toList_cut`).
-/
namespace Cadence

/-! ## Runs of excluded values -/

section Runs

variable {α : Type}

/-- The first `n` values of `xs` are all in `ys`: a run of `n` excluded values. -/
def ExcludedRun (n : Nat) (ys xs : List α) : Prop :=
  n ≤ xs.length ∧ ∀ x ∈ xs.take n, x ∈ ys

variable {ys xs : List α} {c : α} {n : Nat}

theorem excludedRun_zero : ExcludedRun 0 ys xs := ⟨Nat.zero_le _, by simp⟩

theorem excludedRun_cons_iff (hc : c ∈ ys) :
    ExcludedRun (n + 1) ys (c :: xs) ↔ ExcludedRun n ys xs := by
  simp [ExcludedRun, hc]

theorem not_excludedRun_cons (hc : c ∉ ys) : ¬ ExcludedRun (n + 1) ys (c :: xs) := by
  simp [ExcludedRun, hc]

theorem ExcludedRun.mono {m : Nat} (h : ExcludedRun n ys xs) (hmn : m ≤ n) : ExcludedRun m ys xs :=
  ⟨hmn.trans h.1, fun x hx => h.2 x ((List.take_sublist_take_left hmn).subset hx)⟩

/-- Where a difference with `b` exclusions in a row left stops in `xs`: before a long enough run
of excluded values (`b` at the start, `M` after it), or at the end. -/
structure CutAt (M b : Nat) (ys xs : List α) (k : Nat) : Prop where
  le_length : k ≤ xs.length
  stop : k < xs.length → ExcludedRun (if k = 0 then b else M) ys (xs.drop k)
  first : ∀ j < k, ¬ ExcludedRun (if j = 0 then b else M) ys (xs.drop j)

variable {M : Nat}

theorem cutAt_zero_of_run {b : Nat} (h : xs.length = 0 ∨ ExcludedRun b ys xs) : CutAt M b ys xs 0 :=
  ⟨Nat.zero_le _, fun hlt => by
    rcases h with h | h
    · omega
    · simpa using h, fun _ hj => absurd hj (Nat.not_lt_zero _)⟩

theorem CutAt.cons_excluded {b k : Nat} (hc : c ∈ ys) (hb : 0 < b) (hbM : b ≤ M)
    (h : CutAt M b ys xs k) (hk : 0 < k ∨ k = xs.length) :
    CutAt M (b + 1) ys (c :: xs) (k + 1) := by
  -- the run at the front of `c :: xs` is `c` and the run at the front of `xs`
  have hfront : ¬ ExcludedRun b ys xs := by
    by_cases hk0 : 0 < k
    · simpa using h.first 0 hk0
    · -- the rest is empty, too short for a run
      intro hrun
      have := hrun.1
      omega
  refine ⟨by simpa using h.le_length, fun hlt => ?_, fun j hj => ?_⟩
  · have hk' : 0 < k := by
      rcases hk with hk | hk
      · exact hk
      · simp at hlt; omega
    have := h.stop (by simpa using hlt)
    simpa [Nat.pos_iff_ne_zero.1 hk'] using this
  · cases j with
    | zero => simpa [excludedRun_cons_iff hc] using hfront
    | succ j =>
      simp only [Nat.add_one_ne_zero, if_false, List.drop_succ_cons]
      cases j with
      | zero => exact fun hrun => hfront (by simpa using hrun.mono hbM)
      | succ j => simpa using h.first (j + 1) (by omega)

theorem CutAt.cons_kept {b k : Nat} (hc : c ∉ ys) (h : CutAt M M ys xs k) :
    CutAt M (b + 1) ys (c :: xs) (k + 1) := by
  refine ⟨by simpa using h.le_length, fun hlt => ?_, fun j hj => ?_⟩
  · have := h.stop (by simpa using hlt)
    simpa using this
  · cases j with
    | zero => simpa using not_excludedRun_cons hc
    | succ j => simpa using h.first j (by omega)

end Runs

/-! ## Excluding by membership -/

section Membership

variable {α : Type} [DecidableEq α] {M : Nat} {ys : List α}

/-- The values of `xs` not in `ys`, in order, up to the point where a run of values in `ys`
uses up the budget: `budget` values in a row at the start, `M` after a value kept. -/
def cutExcluded (M : Nat) (ys : List α) : Nat → List α → List α
  | 0, _ => []
  | _ + 1, [] => []
  | budget + 1, c :: xs =>
    if c ∈ ys then (if budget = 0 then [] else cutExcluded M ys budget xs)
    else c :: cutExcluded M ys M xs

/-- The values kept by membership are those of the base before its cut that are not
excluded. -/
theorem cutExcluded_spec (M : Nat) (ys : List α) : ∀ (b : Nat) (xs : List α), b ≤ M →
    ∃ k, CutAt M b ys xs k ∧ cutExcluded M ys b xs = (xs.take k).filter (· ∉ ys)
  | 0, xs, _ => ⟨0, cutAt_zero_of_run (.inr excludedRun_zero), by simp [cutExcluded]⟩
  | _ + 1, [], _ => ⟨0, cutAt_zero_of_run (.inl rfl), by simp [cutExcluded]⟩
  | b + 1, c :: xs, hb => by
    by_cases hc : c ∈ ys
    · by_cases hb0 : b = 0
      · -- the budget runs out at `c`
        subst hb0
        refine ⟨0, cutAt_zero_of_run (.inr ?_), by simp [cutExcluded, hc]⟩
        exact (excludedRun_cons_iff hc).2 excludedRun_zero
      · obtain ⟨k, hcut, hkeep⟩ := cutExcluded_spec M ys b xs (by omega)
        have hpos : 0 < b := Nat.pos_of_ne_zero hb0
        rw [cutExcluded, if_pos hc, if_neg hb0, hkeep]
        by_cases hstop : 0 < k ∨ k = xs.length
        · refine ⟨k + 1, hcut.cons_excluded hc hpos (by omega) hstop, ?_⟩
          rw [List.take_succ_cons, List.filter_cons_of_neg (by simpa using hc)]
        · -- the rest stops at once, so `c` joins its run
          have hk0 : k = 0 := by omega
          subst hk0
          have hrun := hcut.stop (by omega)
          simp only [if_true, List.drop_zero] at hrun
          exact ⟨0, cutAt_zero_of_run (.inr ((excludedRun_cons_iff hc).2 hrun)), by simp⟩
    · obtain ⟨k, hcut, hkeep⟩ := cutExcluded_spec M ys M xs le_rfl
      refine ⟨k + 1, hcut.cons_kept hc, ?_⟩
      rw [cutExcluded, if_neg hc, hkeep, List.take_succ_cons,
        List.filter_cons_of_pos (by simpa using hc)]

theorem cutExcluded_congr {ys' : List α} : ∀ {b : Nat} {xs : List α},
    (∀ x ∈ xs, x ∈ ys ↔ x ∈ ys') → cutExcluded M ys b xs = cutExcluded M ys' b xs
  | 0, _, _ => by simp [cutExcluded]
  | _ + 1, [], _ => by simp [cutExcluded]
  | b + 1, c :: xs, h => by
    have hrest : ∀ x ∈ xs, x ∈ ys ↔ x ∈ ys' := fun x hx => h x (List.mem_cons_of_mem _ hx)
    rw [cutExcluded, cutExcluded]
    by_cases hc : c ∈ ys
    · rw [if_pos hc, if_pos ((h c List.mem_cons_self).1 hc), cutExcluded_congr hrest]
    · rw [if_neg hc, if_neg fun hc' => hc ((h c List.mem_cons_self).2 hc'),
        cutExcluded_congr hrest]

end Membership

/-! ## The lazy cursor on non-decreasing lists -/

section Linear

variable {α : Type} [LinearOrder α]

theorem isLT_compare_iff {a b : α} : (compare a b).isLT = true ↔ a < b := by
  rw [Ordering.isLT_iff_eq_lt, compare_lt_iff_lt]

section Cursor

variable {ys : List α} {c : α}

theorem mem_dropWhile_lt_iff {x : α} (hcx : c ≤ x) :
    x ∈ ys.dropWhile (fun y => (compare y c).isLT) ↔ x ∈ ys := by
  constructor
  · exact fun hx => (List.dropWhile_suffix _).subset hx
  · intro hx
    have hsplit : x ∈ ys.takeWhile (fun y => (compare y c).isLT) ++
        ys.dropWhile (fun y => (compare y c).isLT) := by
      rwa [List.takeWhile_append_dropWhile]
    rcases List.mem_append.1 hsplit with hx | hx
    · -- a value passed lies below `c`
      have hlt := isLT_compare_iff.1 (List.mem_takeWhile_imp (p := fun y => (compare y c).isLT) hx)
      exact absurd hcx (not_le.2 hlt)
    · exact hx

theorem head_dropWhile_lt_iff (hys : ys.Pairwise (· ≤ ·)) :
    (ys.dropWhile fun y => (compare y c).isLT).head?.map (compare · c) = some .eq ↔ c ∈ ys := by
  induction ys with
  | nil => simp
  | cons y ys ih =>
    obtain ⟨hy, hys⟩ := List.pairwise_cons.1 hys
    by_cases hlt : (compare y c).isLT = true
    · rw [List.dropWhile_cons_of_pos (p := fun y => (compare y c).isLT) hlt, ih hys,
        List.mem_cons]
      have hne : c ≠ y := (ne_of_lt (isLT_compare_iff.1 hlt)).symm
      simp [hne]
    · -- `y` stays in front; a later `c` would lie above `y`, which is not below `c`
      rw [List.dropWhile_cons_of_neg (p := fun y => (compare y c).isLT) hlt]
      have hcy : c ≤ y := not_lt.1 fun h => hlt (isLT_compare_iff.2 h)
      simp only [List.head?_cons, Option.map_some, Option.some.injEq, compare_eq_iff_eq,
        List.mem_cons]
      constructor
      · intro h
        exact .inl h.symm
      · rintro (h | h)
        · exact h.symm
        · exact le_antisymm (hy c h) hcy

/-- On non-decreasing lists the difference is the exclusion by membership. -/
theorem guardedDiff_eq_cutExcluded (M : Nat) : ∀ {b : Nat} {xs ys : List α},
    xs.Pairwise (· ≤ ·) → ys.Pairwise (· ≤ ·) → guardedDiff M b xs ys = cutExcluded M ys b xs
  | 0, _, _, _, _ => by simp [guardedDiff, cutExcluded]
  | _ + 1, [], _, _, _ => by simp [guardedDiff, cutExcluded]
  | b + 1, c :: xs, ys, hxs, hys => by
    obtain ⟨hcx, hxs⟩ := List.pairwise_cons.1 hxs
    have hrest : (ys.dropWhile fun y => (compare y c).isLT).Pairwise (· ≤ ·) :=
      hys.sublist (List.dropWhile_suffix _).sublist
    -- every later value of the base lies at or above `c`, so the cursor answers for it alike
    have hsame : ∀ x ∈ xs, x ∈ ys.dropWhile (fun y => (compare y c).isLT) ↔ x ∈ ys :=
      fun x hx => mem_dropWhile_lt_iff (hcx x hx)
    rw [guardedDiff, cutExcluded]
    simp only [head_dropWhile_lt_iff hys]
    rw [guardedDiff_eq_cutExcluded M hxs hrest, guardedDiff_eq_cutExcluded M hxs hrest,
      cutExcluded_congr hsame, cutExcluded_congr hsame]
termination_by _ xs => xs.length

end Cursor

/-! ## The difference of two lists -/

theorem Difference.toList_ofSources (xs ys : List α) :
    Source.toList (Difference.ofSources xs ys : Difference (List α) (List α) α) =
      .ok (guardedDiff maxConsecutiveExclusions maxConsecutiveExclusions xs ys) := by
  have hruns : Difference.Runs (fun _ => True) (fun _ => True)
      (Difference.ofSources xs ys : Difference (List α) (List α) α) xs ys :=
    ⟨Source.run_list xs, ⟨none, Peek.run_later.2 (Source.run_list ys), .inl rfl⟩, trivial, trivial⟩
  exact (Difference.run Source.bounded_list Source.bounded_list Source.fits_list hruns).toList_eq
    (Difference.bounded Source.bounded_list Source.bounded_list Source.fits_list) ⟨xs, ys, hruns⟩

/-- The difference of two lists keeps values of its base in order; on non-decreasing lists it
keeps those not excluded, up to the first run of `maxConsecutiveExclusions` excluded values. -/
theorem Difference.toList_cut (xs ys : List α) :
    ∃ o, Source.toList (Difference.ofSources xs ys : Difference (List α) (List α) α) = .ok o ∧
      o.Sublist xs ∧
      (xs.SortedLE → ys.SortedLE →
        ∃ k ≤ xs.length, o = (xs.take k).filter (· ∉ ys) ∧
          (k < xs.length → ExcludedRun maxConsecutiveExclusions ys (xs.drop k)) ∧
          ∀ j < k, ¬ ExcludedRun maxConsecutiveExclusions ys (xs.drop j)) := by
  refine ⟨_, toList_ofSources xs ys, guardedDiff_sublist _ _ _ _, fun hxs hys => ?_⟩
  obtain ⟨k, hcut, hkeep⟩ :=
    cutExcluded_spec maxConsecutiveExclusions ys maxConsecutiveExclusions xs le_rfl
  -- with a full budget the run that stops the difference is `maxConsecutiveExclusions` long
  -- wherever it starts
  refine ⟨k, hcut.le_length, ?_, fun hk => by simpa using hcut.stop hk,
    fun j hj => by simpa using hcut.first j hj⟩
  rw [guardedDiff_eq_cutExcluded _ hxs.pairwise hys.pairwise, hkeep]

end Linear

end Cadence
